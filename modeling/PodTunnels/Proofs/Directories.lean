import Mathlib.Data.List.Induction
import PodTunnels.Proofs.Files

/-!
# Ways through directories

Making the directories of a location adds directories where nothing was (`OnlyMakes`). It begins at
the first one that is missing, if any (`makeEach_waysFrom`). In a file system in which everything
stands in a directory (`Rooted`), nothing stands below a place with nothing at it. So where plain
names lead through a directory that was missing, they lead straight on to a directory with nothing
in it (`node?_of_missing`). Only a step back leads out of there again, to what has always been there.
-/

namespace PodTunnels.Storage

/-- A name that leads to something in a directory. -/
def Plain (name : String) : Prop :=
  name ≠ Location.rootName ∧ name ≠ Location.hereName ∧ name ≠ Location.backName

namespace FileSystem

variable {fs fs' fs'' : FileSystem} {l : Location} {p q r d e : Place} {node : Node} {id n : Nat}
  {name : String} {names front : List String}

/-! ## Names that lead nowhere, and plain names -/

theorem enter_hereName (p : Place) : enter p Location.hereName = .ok p := rfl

theorem enter_eq_ok_iff (hplain : Plain name) :
    enter p name = .ok q ↔ name.utf8ByteSize ≤ maxName ∧ q = p ++ [name] := by
  obtain ⟨hroot, hhere, hback⟩ := hplain
  rw [enter, if_neg hroot, if_neg hhere, if_neg hback]
  split
  · rename_i hlong
    exact iff_of_false (by simp) fun h => absurd h.1 (Nat.not_le_of_lt hlong)
  · rename_i hfits
    rw [Except.ok.injEq, eq_comm, and_iff_right (Nat.le_of_not_lt hfits)]

/-- Single points can be left out. -/
theorem Leads.dropPoints (h : fs.Leads n p (front ++ names) r) :
    fs.Leads n p (front ++ names.filter (· ≠ Location.hereName)) r := by
  generalize hall : front ++ names = all at h
  induction h generalizing front names with
  | here =>
    obtain ⟨rfl, rfl⟩ := List.append_eq_nil_iff.1 hall
    exact .here
  | @step n p q r name rest hp hq hlink _ ih =>
    cases front with
    | cons first front =>
      cases hall
      exact .step hp hq hlink (ih rfl)
    | nil =>
      obtain rfl : names = name :: rest := hall
      have hrest := ih (show [] ++ rest = rest from rfl)
      by_cases hhere : name = Location.hereName
      · subst hhere
        cases (enter_hereName p).symm.trans hq
        simpa using hrest
      · rw [List.filter_cons_of_pos (by simpa using hhere)]
        exact .step hp hq hlink hrest
  | @link n p q r name rest target hp hq hlink _ ih =>
    cases front with
    | cons first front =>
      cases hall
      refine .link hp hq hlink ?_
      have hrest := ih (show target.path ++ front ++ names = _ from List.append_assoc ..)
      rwa [List.append_assoc] at hrest
    | nil =>
      obtain rfl : names = name :: rest := hall
      have hhere : name ≠ Location.hereName := by
        rintro rfl
        cases (enter_hereName p).symm.trans hq
        cases hp.symm.trans hlink
      rw [List.filter_cons_of_pos (by simpa using hhere)]
      exact .link hp hq hlink (ih rfl)

/-- Where there are no links, plain names lead straight on. -/
theorem Leads.eq_append (h : fs.Leads n p names r) (hplain : ∀ name ∈ names, Plain name)
    (hlinks : ∀ below target, fs.node? (p ++ below) ≠ some (.link target)) : r = p ++ names := by
  induction h with
  | here => exact (List.append_nil _).symm
  | @step n p q r name names hp hq hlink _ ih =>
    obtain ⟨-, rfl⟩ := (enter_eq_ok_iff (hplain name List.mem_cons_self)).1 hq
    have hrest := ih (fun other hother => hplain other (List.mem_cons_of_mem _ hother))
      fun below target => by simpa using hlinks (name :: below) target
    rw [hrest, List.append_assoc]
    rfl
  | @link n p q r name names target hp hq hlink =>
    obtain ⟨-, rfl⟩ := (enter_eq_ok_iff (hplain name List.mem_cons_self)).1 hq
    exact absurd hlink (hlinks [name] target)

theorem place_eq_ok_iff_of_waysStay (h : WaysStay fs fs') (h' : WaysStay fs' fs) :
    fs'.place l = .ok r ↔ fs.place l = .ok r := by
  rw [place_eq_ok_iff, place_eq_ok_iff, h.working]
  refine and_congr_right fun _ => ⟨fun hleads => ?_, fun hleads => ?_⟩
  · have hstart := h.working ▸ node?_working fs'
    exact hleads.of_waysStay h' fun target htarget =>
      hleads.not_link hstart target (h.node? r _ trivial htarget)
  · exact hleads.of_waysStay h fun target htarget =>
      hleads.not_link (node?_working fs) target (h'.node? r _ trivial htarget)

theorem SameBut.place_eq_ok_iff (h : SameBut p id fs fs') :
    fs'.place l = .ok r ↔ fs.place l = .ok r :=
  place_eq_ok_iff_of_waysStay h.waysStay h.waysStay_back

/-! ## The directory of a location -/

def HasDirectory (fs : FileSystem) (l : Location) : Prop :=
  ∃ d, fs.Leads maxLinks fs.working l.steps.dropLast d ∧ fs.node? d = some .directory

/-- The file name of a location is its last step. -/
theorem steps_of_fileName? (h : l.fileName? = some name) :
    l.steps = l.steps.dropLast ++ [name] ∧ Plain name := by
  obtain ⟨hlast, hname⟩ := Option.filter_eq_some_iff.1 h
  obtain ⟨hroot, hback⟩ := of_decide_eq_true hname
  obtain ⟨before, hbefore⟩ := List.getLast?_eq_some_iff.1 hlast
  have hmem : name ∈ l.steps := List.mem_of_getLast? hlast
  refine ⟨by rw [hbefore, List.dropLast_concat], hroot, ?_, hback⟩
  simpa using (List.mem_filter.1 hmem).2

/-- The place of a location is that of its file name in its directory, unless there is a link. -/
theorem exists_directory_of_place (hname : l.fileName? = some name) (hplace : fs.place l = .ok r) :
    ∃ d, fs.Leads maxLinks fs.working l.steps.dropLast d ∧ fs.node? d = some .directory ∧
      ((∀ target, fs.node? (d ++ [name]) ≠ some (.link target)) → r = d ++ [name]) := by
  obtain ⟨hsteps, hplain⟩ := steps_of_fileName? hname
  have hleads : fs.Leads maxLinks fs.working ([] ++ l.steps) r :=
    (place_eq_ok_iff.1 hplace).2.dropPoints
  rw [List.nil_append, hsteps] at hleads
  obtain ⟨d, e, hd, hdirectory, he⟩ := hleads.exists_before
  refine ⟨d, hd, hdirectory, fun hlink => ?_⟩
  obtain ⟨-, rfl⟩ := (enter_eq_ok_iff hplain).1 he
  exact hleads.unique (hd.concat hdirectory he hlink)

theorem hasDirectory_of_place (hname : l.fileName? = some name) (hplace : fs.place l = .ok r) :
    fs.HasDirectory l :=
  have ⟨d, hd, hdirectory, _⟩ := exists_directory_of_place hname hplace
  ⟨d, hd, hdirectory⟩

/-- The name that a location ends in is in its directory, if it is the file name. -/
theorem exists_directory_of_entry (hname : l.fileName? = some name)
    (hpoints : endsInPoints l = false) (hentry : fs.entry l = .ok p) :
    ∃ d, fs.Leads maxLinks fs.working l.steps.dropLast d ∧ fs.node? d = some .directory ∧
      p = d ++ [name] := by
  obtain ⟨-, before, last, d, hnames, hd, hdirectory, hp⟩ := entry_eq_ok_iff.1 hentry
  have hhere : last ≠ Location.hereName := by
    rintro rfl
    simp [endsInPoints, hnames] at hpoints
  have hsteps : l.steps = before.filter (· ≠ Location.hereName) ++ [last] := by
    simp [Location.steps, hnames, hhere]
  obtain ⟨hlast, hplain⟩ := steps_of_fileName? hname
  obtain ⟨hbefore, hsame⟩ := List.append_inj' (hlast.symm.trans hsteps) rfl
  obtain rfl : name = last := List.head_eq_of_cons_eq hsame
  refine ⟨d, ?_, hdirectory, ((enter_eq_ok_iff hplain).1 hp).2⟩
  rw [hbefore]
  exact Leads.dropPoints (show fs.Leads maxLinks fs.working ([] ++ before) d from hd)

/-! ## More directories -/

/-- Some directories are new, and nothing else has changed. -/
structure OnlyMakes (fs fs' : FileSystem) : Prop where
  working : fs'.working = fs.working
  content : fs'.content = fs.content
  node? : ∀ p, fs'.node? p = fs.node? p ∨ fs.node? p = none ∧ fs'.node? p = some .directory

theorem OnlyMakes.refl (fs : FileSystem) : OnlyMakes fs fs :=
  ⟨rfl, rfl, fun _ => .inl rfl⟩

theorem OnlyMakes.trans (h : OnlyMakes fs fs') (h' : OnlyMakes fs' fs'') : OnlyMakes fs fs'' where
  working := h'.working.trans h.working
  content := h'.content.trans h.content
  node? p := by
    obtain hsame' | ⟨hnone, hnew⟩ := h'.node? p
    · rw [hsame']
      exact h.node? p
    · obtain hsame | ⟨-, hnew'⟩ := h.node? p
      · exact .inr ⟨hsame.symm.trans hnone, hnew⟩
      · cases hnone.symm.trans hnew'

theorem OnlyMakes.node?_of_some (h : OnlyMakes fs fs') (hnode : fs.node? p = some node) :
    fs'.node? p = some node := by
  obtain hsame | ⟨hnone, -⟩ := h.node? p
  · exact hsame.trans hnode
  · cases hnone.symm.trans hnode

theorem OnlyMakes.waysStay (h : OnlyMakes fs fs') : WaysStay fs fs' :=
  ⟨h.working, fun _ _ _ => h.node?_of_some⟩

theorem onlyMakes_put (hfree : fs.node? p = none) : OnlyMakes fs (fs.put p .directory) where
  working := rfl
  content := rfl
  node? q := by
    by_cases hq : q = p
    · subst hq
      exact .inr ⟨hfree, node?_put_self (isGiven_of_ne_directory (by simp [hfree]))⟩
    · exact .inl (node?_put_of_ne hq)

theorem makeOne_eq_ok (h : fs.makeOne l = .ok fs') :
    ∃ p, fs.entry l = .ok p ∧
      (fs.node? p = none ∧ fs' = fs.put p .directory ∨
        fs.node? p ≠ none ∧ fs.lookup l = .ok .directory ∧ fs' = fs) := by
  unfold makeOne at h
  split at h
  · cases h
  · rename_i p hentry
    refine ⟨p, hentry, ?_⟩
    split at h
    · rename_i hfree
      exact .inl ⟨hfree, (Except.ok.inj h).symm⟩
    · rename_i hthere
      split at h
      · rename_i hlookup
        exact .inr ⟨hthere, hlookup, (Except.ok.inj h).symm⟩
      · cases h

theorem onlyMakes_makeOne (h : fs.makeOne l = .ok fs') : OnlyMakes fs fs' := by
  obtain ⟨p, -, ⟨hfree, rfl⟩ | ⟨-, -, rfl⟩⟩ := makeOne_eq_ok h
  · exact onlyMakes_put hfree
  · exact .refl fs'

theorem onlyMakes_makeEach (fs : FileSystem) (ls : List Location) :
    OnlyMakes fs (fs.makeEach ls).2 := by
  induction ls generalizing fs with
  | nil => exact .refl fs
  | cons l ls ih =>
    unfold makeEach
    cases hmade : fs.makeOne l with
    | error reason => exact .refl fs
    | ok mid => exact (onlyMakes_makeOne hmade).trans (ih mid)

theorem onlyMakes_makeEach_take (fs : FileSystem) (ls : List Location) (n : Nat) :
    OnlyMakes (fs.makeEach (ls.take n)).2 (fs.makeEach ls).2 := by
  induction ls generalizing fs n with
  | nil => simpa using .refl _
  | cons l ls ih =>
    cases n with
    | zero => exact onlyMakes_makeEach fs (l :: ls)
    | succ n =>
      rw [List.take_succ_cons]
      unfold makeEach
      cases fs.makeOne l with
      | error reason => exact .refl fs
      | ok mid => exact ih mid n

end FileSystem

/-! ## The first directory that is missing -/

/-- The locations that one passes on the way from some names on. -/
def Location.waysFrom (front : List String) : List String → List Location
  | [] => []
  | name :: names => { names := front ++ [name] } :: waysFrom (front ++ [name]) names

namespace Location

variable {front names : List String} {n : Nat}

theorem waysFrom_eq_map :
    waysFrom front names = (List.range names.length).map
      fun n => { names := front ++ names.take (n + 1) } := by
  induction names generalizing front with
  | nil => rfl
  | cons name names ih => simp [waysFrom, ih, List.range_succ_eq_map]

theorem take_waysFrom : (waysFrom front names).take n = waysFrom front (names.take n) := by
  induction names generalizing front n with
  | nil => simp [waysFrom]
  | cons name names ih =>
    cases n with
    | zero => rfl
    | succ n => simp [waysFrom, ih]

theorem ways_eq_waysFrom (hsteps : names.filter (· ≠ hereName) = names) :
    ways { names } = waysFrom [] names := by
  cases names with
  | nil => rfl
  | cons name names =>
    rw [waysFrom_eq_map, ways, steps, hsteps, if_neg (List.cons_ne_nil _ _), List.length_cons]
    -- The last location is kept apart on the one side, the first number on the other.
    rw [List.range_succ_eq_map, List.tail_cons, ← List.range_succ_eq_map, List.range_succ,
      List.map_append, List.map_map]
    simp [Function.comp_def]

end Location

namespace FileSystem

variable {fs fs' : FileSystem} {l : Location} {p q r d e : Place} {before front names : List String}
  {name : String} {n id : Nat}

/-- The first directory that is missing on a way: what comes before its name leads to a directory,
and there is nothing under that name in it. -/
structure Missing (fs : FileSystem) (before : List String) (name : String) (d e : Place) :
    Prop where
  leads : fs.Leads maxLinks fs.working before d
  directory : fs.node? d = some .directory
  enters : enter d name = .ok e
  free : fs.node? e = none

/-- Nothing is found behind a directory that is missing. -/
theorem Missing.not_leads {rest : List String} (h : fs.Missing before name d e)
    (hq : fs.node? q = some .directory) :
    ¬ fs.Leads maxLinks fs.working (before ++ name :: rest) q := by
  intro hleads
  obtain ⟨m, d', hd', hrest⟩ := hleads.split
  cases hd'.unique h.leads
  cases hrest with
  | step hp he hlink hrest =>
    cases he.symm.trans h.enters
    cases rest with
    | nil =>
      cases hrest
      cases h.free.symm.trans hq
    | cons => cases h.free.symm.trans hrest.exists_enter.1
  | link hp he hlink =>
    cases he.symm.trans h.enters
    cases h.free.symm.trans hlink

/-- Only what is missing is made, from the first directory on. -/
theorem makeEach_waysFrom (hfront : fs.Leads maxLinks fs.working front d)
    (hdirectory : fs.node? d = some .directory) (names : List String) :
    (fs.makeEach (Location.waysFrom front names)).2 = fs ∨
      ∃ before name rest d e, names = before ++ name :: rest ∧
        fs.Missing (front ++ before) name d e ∧
        (fs.makeEach (Location.waysFrom front names)).2 =
          ((fs.put e .directory).makeEach
            (Location.waysFrom (front ++ before ++ [name]) rest)).2 := by
  induction names generalizing front d with
  | nil => exact .inl rfl
  | cons name names ih =>
    rw [Location.waysFrom, makeEach]
    cases hmade : fs.makeOne { names := front ++ [name] } with
    | error reason => exact .inl rfl
    | ok mid =>
      dsimp only
      obtain ⟨e, hentry, ⟨hfree, rfl⟩ | ⟨-, hlookup, rfl⟩⟩ := makeOne_eq_ok hmade
      · obtain ⟨-, front', name', d', hnames, hd', -, he⟩ := entry_eq_ok_iff.1 hentry
        obtain ⟨rfl, hsame⟩ := List.append_inj' hnames rfl
        cases hsame
        cases hd'.unique hfront
        refine .inr ⟨[], name, names, d, e, rfl, ?_, ?_⟩
        · rw [List.append_nil]
          exact ⟨hd', hdirectory, he, hfree⟩
        · rw [List.append_nil]
      · obtain ⟨-, ⟨q, hplace, hq⟩, -⟩ := lookup_eq_ok_iff.1 hlookup
        obtain hsame | ⟨before, first, rest, d', e', rfl, hmissing, hrest⟩ :=
          ih (place_eq_ok_iff.1 hplace).2 hq
        · exact .inl hsame
        · refine .inr ⟨name :: before, first, rest, d', e', rfl, ?_, ?_⟩
          · rwa [List.append_assoc] at hmissing
          · rw [List.append_assoc front [name] before] at hrest
            exact hrest

/-! ## Everything in a directory -/

/-- Whatever is there stands in a directory. -/
def Rooted (fs : FileSystem) : Prop :=
  ∀ p name, fs.node? (p ++ [name]) ≠ none → fs.node? p = some .directory

theorem Rooted.node?_of_append {rest : List String} (h : fs.Rooted) (hrest : rest ≠ [])
    (hnode : fs.node? (p ++ rest) ≠ none) : fs.node? p = some .directory := by
  induction rest using List.reverseRecOn with
  | nil => exact absurd rfl hrest
  | append_singleton rest name ih =>
    have hlast : fs.node? (p ++ rest) = some .directory :=
      h _ name (by rwa [List.append_assoc])
    by_cases hnil : rest = []
    · subst hnil
      rwa [List.append_nil] at hlast
    · exact ih hnil (hlast ▸ nofun)

/-- Below a place with nothing at it there is nothing. -/
theorem Rooted.node?_below (h : fs.Rooted) (hfree : fs.node? p = none) (below : List String) :
    fs.node? (p ++ below) = none := by
  by_contra hnode
  by_cases hnil : below = []
  · subst hnil
    exact hnode (by rwa [List.append_nil])
  · cases hfree.symm.trans (h.node?_of_append hnil hnode)

/-- Directories that are made by plain names in an empty directory stand below it, one in the
other. -/
theorem node?_makeEach_below (he : fs.Leads maxLinks fs.working front e)
    (hdirectory : fs.node? e = some .directory)
    (hfree : ∀ below, below ≠ [] → fs.node? (e ++ below) = none)
    (hplain : ∀ name ∈ names, Plain name) (q : Place) :
    (fs.makeEach (Location.waysFrom front names)).2.node? q = fs.node? q ∨
      ∃ below, below.length ≤ names.length ∧ q = e ++ below := by
  induction names generalizing fs front e with
  | nil => exact .inl rfl
  | cons name names ih =>
    rw [Location.waysFrom, makeEach]
    cases hmade : fs.makeOne { names := front ++ [name] } with
    | error reason => exact .inl rfl
    | ok mid =>
      dsimp only
      obtain ⟨p, hentry, hcases⟩ := makeOne_eq_ok hmade
      obtain ⟨-, front', name', e', hnames, he', -, hp⟩ := entry_eq_ok_iff.1 hentry
      obtain ⟨rfl, hsame⟩ := List.append_inj' hnames rfl
      cases hsame
      cases he'.unique he
      obtain ⟨-, rfl⟩ := (enter_eq_ok_iff (hplain name List.mem_cons_self)).1 hp
      have hnone : fs.node? (e ++ [name]) = none := hfree [name] (List.cons_ne_nil _ _)
      obtain ⟨-, rfl⟩ | ⟨hthere, -⟩ := hcases
      · have hmakes : OnlyMakes fs (fs.put (e ++ [name]) .directory) := onlyMakes_put hnone
        have hnew : (fs.put (e ++ [name]) .directory).node? (e ++ [name]) = some .directory :=
          node?_put_self (isGiven_of_ne_directory (by simp [hnone]))
        have hleads := (he.of_waysStay hmakes.waysStay
          (by simp [hmakes.node?_of_some hdirectory])).concat (hmakes.node?_of_some hdirectory) hp
          (by simp [hnew])
        have hempty (below : List String) (hbelow : below ≠ []) :
            (fs.put (e ++ [name]) .directory).node? (e ++ [name] ++ below) = none := by
          rw [node?_put_of_ne (by simpa using hbelow), List.append_assoc]
          exact hfree _ (List.cons_ne_nil _ _)
        obtain hsame | ⟨below, hle, rfl⟩ := ih hleads hnew hempty
          fun other hother => hplain other (List.mem_cons_of_mem _ hother)
        · by_cases hq : q = e ++ [name]
          · exact .inr ⟨[name], by simp, hq⟩
          · exact .inl (hsame.trans (node?_put_of_ne hq))
        · exact .inr ⟨name :: below, Nat.succ_le_succ hle, List.append_assoc ..⟩
      · exact absurd hnone hthere

/-- Behind the first directory that was missing, plain names lead straight on to a directory that
has nothing in it. -/
theorem Missing.node?_behind {made : FileSystem} {first : String} {rest more : List String}
    (h : fs.Missing before first d e) (hrooted : fs.Rooted)
    (hplain : ∀ name ∈ rest ++ more, Plain name)
    (hmade : made = ((fs.put e .directory).makeEach
      (Location.waysFrom (before ++ [first]) rest)).2)
    (hleads : made.Leads maxLinks made.working (before ++ first :: (rest ++ more)) q) :
    made.node? (q ++ [name]) = none := by
  have hput : OnlyMakes fs (fs.put e .directory) := onlyMakes_put h.free
  have hlater : OnlyMakes (fs.put e .directory) made := hmade ▸ onlyMakes_makeEach _ _
  have hmakes : OnlyMakes fs made := hput.trans hlater
  have hnew : (fs.put e .directory).node? e = some .directory :=
    node?_put_self (isGiven_of_ne_directory (by simp [h.free]))
  -- The names before lead where they led, and then to the new directory.
  obtain ⟨m, d', hd', hend⟩ := hleads.split
  have hbefore := h.leads.of_waysStay hmakes.waysStay
    (by simp [hmakes.node?_of_some h.directory])
  rw [← hmakes.working] at hbefore
  cases hd'.unique hbefore
  have hbehind : made.Leads m e (rest ++ more) q := by
    cases hend with
    | step hp he hlink hrest =>
      cases he.symm.trans h.enters
      exact hrest
    | link hp he hlink =>
      cases he.symm.trans h.enters
      cases (hlater.node?_of_some hnew).symm.trans hlink
  have hlinks (below : List String) (target : Location) :
      made.node? (e ++ below) ≠ some (.link target) := by
    have hnone := hrooted.node?_below h.free below
    obtain hsame | ⟨-, hdirectory⟩ := hmakes.node? (e ++ below)
    · simp [hsame, hnone]
    · simp [hdirectory]
  obtain rfl := hbehind.eq_append hplain hlinks
  have hfront : (fs.put e .directory).Leads maxLinks (fs.put e .directory).working
      (before ++ [first]) e :=
    (h.leads.of_waysStay hput.waysStay (by simp [hput.node?_of_some h.directory])).concat
      (hput.node?_of_some h.directory) h.enters (by simp [hnew])
  have hempty (below : List String) (hbelow : below ≠ []) :
      (fs.put e .directory).node? (e ++ below) = none := by
    rw [node?_put_of_ne (by simpa using hbelow)]
    exact hrooted.node?_below h.free below
  obtain hsame | ⟨below, hle, hbelow⟩ := node?_makeEach_below hfront hnew hempty
    (fun other hother => hplain other (List.mem_append_left _ hother)) (e ++ (rest ++ more) ++ [name])
  · rw [hmade, hsame, List.append_assoc]
    exact hempty _ (by simp)
  · -- No directory is made that far down.
    have hlength := congrArg List.length hbelow
    simp only [List.length_append, List.length_singleton] at hlength
    omega

/-- Where plain names lead through a directory that was missing, there is nothing in the directory
that they lead to now. -/
theorem node?_of_missing (hrooted : fs.Rooted) (hplain : ∀ name ∈ names.tail, Plain name)
    (hmissing : ∀ d, fs.Leads maxLinks fs.working names d → fs.node? d ≠ some .directory)
    {made : FileSystem} (hmade : made = (fs.makeEach (Location.waysFrom [] (names.take n))).2)
    (hd : made.Leads maxLinks made.working names d) (hdirectory : made.node? d = some .directory) :
    made.node? (d ++ [name]) = none := by
  obtain hsame | ⟨before, first, rest, start, e, htake, hfirst, hrest⟩ :=
    makeEach_waysFrom .here (node?_working fs) (names.take n)
  · obtain rfl : made = fs := hmade.trans hsame
    exact absurd hdirectory (hmissing d hd)
  · have hnames : names = before ++ first :: (rest ++ names.drop n) := by
      conv_lhs => rw [← List.take_append_drop n names, htake]
      simp
    have hbehind (other : String) (hother : other ∈ rest ++ names.drop n) : Plain other := by
      refine hplain other ?_
      rw [hnames]
      cases before with
      | nil => exact hother
      | cons => exact List.mem_append_right _ (List.mem_cons_of_mem _ hother)
    rw [hnames] at hd
    exact hfirst.node?_behind hrooted hbehind (hmade.trans hrest) hd

/-- Nothing is made where the directory is there. -/
theorem makeEach_of_leads (hd : fs.Leads maxLinks fs.working names d)
    (hdirectory : fs.node? d = some .directory) (n : Nat) :
    (fs.makeEach (Location.waysFrom [] (names.take n))).2 = fs := by
  obtain hsame | ⟨before, first, rest, start, e, htake, hfirst, -⟩ :=
    makeEach_waysFrom .here (node?_working fs) (names.take n)
  · exact hsame
  · have hnames : names = before ++ first :: (rest ++ names.drop n) := by
      conv_lhs => rw [← List.take_append_drop n names, htake]
      simp
    rw [hnames] at hd
    exact absurd hd (hfirst.not_leads hdirectory)

/-! ## Everything stays in a directory -/

/-- The names on the way to a place that is no directory end in a plain one. -/
theorem Rooted.exists_directory_of_enter (h : fs.Rooted) (hd : fs.node? d = some .directory)
    (hp : enter d name = .ok p) (hfree : fs.node? p ≠ some .directory) : p = d ++ [name] := by
  have hplain : Plain name := by
    refine ⟨?_, ?_, ?_⟩
    · rintro rfl
      cases hp
      exact hfree (if_pos (List.isPrefixOf_iff_prefix.2 (List.nil_prefix)))
    · rintro rfl
      cases (enter_hereName d).symm.trans hp
      exact hfree hd
    · rintro rfl
      cases hp
      rcases List.eq_nil_or_concat d with rfl | ⟨front, last, rfl⟩
      · exact hfree hd
      · rw [List.concat_eq_append] at hd hfree
        rw [List.dropLast_concat] at hfree
        exact hfree (h front last (by simp [hd]))
  exact ((enter_eq_ok_iff hplain).1 hp).2

theorem Rooted.exists_directory_of_leads (h : fs.Rooted) (hleads : fs.Leads n p names r)
    (hp : fs.node? p = some .directory) (hfree : fs.node? r ≠ some .directory) :
    ∃ d name, r = d ++ [name] ∧ fs.node? d = some .directory := by
  induction hleads with
  | here => exact absurd hp hfree
  | @step n p q r name names _ hq hlink hrest ih =>
    by_cases hdirectory : fs.node? q = some .directory
    · exact ih hdirectory hfree
    · cases hrest with
      | here => exact ⟨p, name, h.exists_directory_of_enter hp hq hfree, hp⟩
      | step hq' | link hq' => exact absurd hq' hdirectory
  | link _ _ _ _ ih => exact ih hp hfree

theorem Rooted.exists_directory_of_place (h : fs.Rooted) (hplace : fs.place l = .ok p)
    (hfree : fs.node? p ≠ some .directory) :
    ∃ d name, p = d ++ [name] ∧ fs.node? d = some .directory :=
  h.exists_directory_of_leads (place_eq_ok_iff.1 hplace).2 (node?_working fs) hfree

theorem Rooted.exists_directory_of_entry (h : fs.Rooted) (hentry : fs.entry l = .ok p)
    (hfree : fs.node? p ≠ some .directory) :
    ∃ d name, p = d ++ [name] ∧ fs.node? d = some .directory := by
  obtain ⟨-, before, name, d, -, -, hd, hp⟩ := entry_eq_ok_iff.1 hentry
  exact ⟨d, name, h.exists_directory_of_enter hd hp hfree, hd⟩

/-- A change at a place that is no directory keeps everything in a directory. -/
theorem Rooted.of_but (h : fs.Rooted) (hfree : fs.node? p ≠ some .directory)
    (hother : ∀ q, q ≠ p → fs'.node? q = fs.node? q)
    (hstands : fs'.node? p = none ∨ ∃ d name, p = d ++ [name] ∧ fs.node? d = some .directory) :
    fs'.Rooted := by
  intro r name hnode
  have hdirectory : fs.node? r = some .directory := by
    by_cases hsame : r ++ [name] = p
    · obtain hnone | ⟨d, last, hp, hd⟩ := hstands
      · rw [hsame, hnone] at hnode
        exact absurd rfl hnode
      · rw [(List.append_inj' (hsame.trans hp) rfl).1]
        exact hd
    · rw [hother _ hsame] at hnode
      exact h r name hnode
  rw [hother r fun hsame => hfree (hsame ▸ hdirectory)]
  exact hdirectory

theorem rooted_empty : Rooted {} := by
  intro p name hnode
  have hgiven : (p ++ [name]).isPrefixOf [] = false := by
    cases p <;> rfl
  exact absurd (by simp [node?, isGiven, hgiven]; rfl) hnode

theorem Rooted.makeEach (h : fs.Rooted) (ls : List Location) : (fs.makeEach ls).2.Rooted := by
  induction ls generalizing fs with
  | nil => exact h
  | cons l ls ih =>
    unfold FileSystem.makeEach
    cases hmade : fs.makeOne l with
    | error reason => exact h
    | ok mid =>
      obtain ⟨p, hentry, ⟨hfree, rfl⟩ | ⟨-, -, rfl⟩⟩ := makeOne_eq_ok hmade
      · have hnot : fs.node? p ≠ some .directory := by simp [hfree]
        exact ih (h.of_but hnot (fun _ hq => node?_put_of_ne hq)
          (.inr (h.exists_directory_of_entry hentry hnot)))
      · exact ih h

theorem SameBut.rooted (h : SameBut p id fs fs') (hrooted : fs.Rooted)
    (hplace : fs.place l = .ok p) : fs'.Rooted := by
  have hfree : fs.node? p ≠ some .directory := by
    obtain hbefore | ⟨hnone, -⟩ := h.before
    · simp [hbefore]
    · simp [hnone]
  exact hrooted.of_but hfree h.node? (.inr (hrooted.exists_directory_of_place hplace hfree))

theorem Rooted.move {source destination : Location} (h : fs.Rooted)
    (hmoved : fs.move source destination = .ok fs') : fs'.Rooted := by
  obtain ⟨p, q, node, hp, hq, hnode, hne, rfl⟩ := move_eq_ok_iff.1 hmoved
  obtain ⟨hentry, -, -, hfree⟩ := target_eq_ok_iff.1 hq
  have hsource : fs.node? p ≠ some .directory := fun hdirectory =>
    hne (Option.some.inj (hnode.symm.trans hdirectory))
  have hremoved : (fs.remove p).Rooted := h.of_but hsource (fun _ hr => node?_remove_of_ne hr)
    (.inl (node?_remove_self (isGiven_of_ne_directory hsource)))
  obtain ⟨-, hsame⟩ | hput := moved_cases fs p q node
  · rwa [hsame]
  · rw [hput]
    obtain ⟨d, name, rfl, hd⟩ := h.exists_directory_of_entry hentry hfree
    have hd' : (fs.remove p).node? d = some .directory := by
      have hne' : d ≠ p := fun hsame => hsource (hsame ▸ hd)
      rwa [node?_remove_of_ne hne']
    have hfree' : (fs.remove p).node? (d ++ [name]) ≠ some .directory := by
      by_cases hsame : d ++ [name] = p
      · rw [hsame, node?_remove_self (isGiven_of_ne_directory hsource)]
        exact nofun
      · rwa [node?_remove_of_ne hsame]
    exact hremoved.of_but hfree' (fun _ hr => node?_put_of_ne hr) (.inr ⟨d, name, rfl, hd'⟩)

end FileSystem

end PodTunnels.Storage
