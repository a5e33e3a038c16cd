import PodTunnels.OrderedMap.Lookup
import PodTunnels.Storage.FileSystem
import Mathlib.Tactic.SplitIfs

/-!
# What is in a file after an operation

To follow a location is a walk over directories and links (`Leads`), and files do not matter on it.
So a location leads to the same place as long as the directories and links on the way stay
(`Leads.of_waysStay`). With that, each operation is told by what is found afterwards: a file that is
opened and written is the only thing that changes (`SameBut`), and a file that is moved is found
where it was moved to, if there still is a way there (`file_of_move`).
-/

namespace PodTunnels.Storage

/-- What names can lead on from: a directory or a link. -/
def Node.IsWay : Node → Prop
  | .file _ => False
  | _ => True

namespace FileSystem

variable {fs fs' : FileSystem} {l source destination : Location} {p q r : Place} {node : Node}
  {id other n : Nat} {bytes : List UInt8} {name : String} {names : List String}

/-! ## Places and files -/

theorem isGiven_of_ne_directory (h : fs.node? p ≠ some .directory) : fs.isGiven p = false :=
  Bool.eq_false_iff.2 fun hgiven => h (if_pos hgiven)

theorem node?_put_self (h : fs.isGiven p = false) : (fs.put p node).node? p = some node := by
  unfold isGiven at h
  simp [node?, isGiven, put, h, OrderedMap.get?_insert]

theorem node?_put_of_ne (h : q ≠ p) : (fs.put p node).node? q = fs.node? q := by
  simp [node?, isGiven, put, OrderedMap.get?_insert, h]

theorem node?_remove_self (h : fs.isGiven p = false) : (fs.remove p).node? p = none := by
  unfold isGiven at h
  simp [node?, isGiven, remove, h, OrderedMap.get?_erase]

theorem node?_remove_of_ne (h : q ≠ p) : (fs.remove p).node? q = fs.node? q := by
  simp [node?, isGiven, remove, OrderedMap.get?_erase, h]

@[simp] theorem node?_fill : (fs.fill id bytes).node? = fs.node? := rfl

@[simp] theorem node?_append : (fs.append id bytes).node? = fs.node? := rfl

@[simp] theorem content_fill_self : (fs.fill id bytes).content id = bytes := by
  simp [content, fill, OrderedMap.get?_insert]

theorem content_fill_of_ne (h : other ≠ id) :
    (fs.fill id bytes).content other = fs.content other := by
  simp [content, fill, OrderedMap.get?_insert, h]

@[simp] theorem content_append_self :
    (fs.append id bytes).content id = fs.content id ++ bytes :=
  content_fill_self

theorem lt_fresh (h : fs.node? p = some (.file id)) : id < fs.fresh := by
  have hfold (nodes : List Node) (n : Nat) (hid : .file id ∈ nodes ∨ id < n) :
      id < nodes.foldl (fun n node => match node with | .file id => max n (id + 1) | _ => n) n := by
    induction nodes generalizing n with
    | nil => simpa using hid
    | cons node nodes ih =>
      refine ih _ ?_
      rcases hid with hmem | hlt
      · refine (List.mem_cons.1 hmem).symm.imp_right ?_
        rintro rfl
        exact Nat.lt_of_lt_of_le (Nat.lt_succ_self id) (Nat.le_max_right ..)
      · refine .inr ?_
        cases node with
        | file => exact Nat.lt_of_lt_of_le hlt (Nat.le_max_left ..)
        | directory | link => exact hlt
  have hgiven : fs.isGiven p = false := isGiven_of_ne_directory (by simp [h])
  have hget : fs.nodes.get? p = some (.file id) := by simpa [node?, hgiven] using h
  exact hfold _ 0 (.inl (List.mem_map.2 ⟨_, OrderedMap.mem_entries_iff.2 hget, rfl⟩))

theorem node?_ne_fresh : fs.node? p ≠ some (.file fs.fresh) :=
  fun h => Nat.lt_irrefl _ (lt_fresh h)

theorem node?_addFile_self (h : fs.isGiven p = false) :
    (fs.addFile p bytes).node? p = some (.file fs.fresh) := by
  rw [addFile, node?_fill, node?_put_self h]

theorem node?_addFile_of_ne (h : q ≠ p) : (fs.addFile p bytes).node? q = fs.node? q := by
  rw [addFile, node?_fill, node?_put_of_ne h]

@[simp] theorem content_addFile_self : (fs.addFile p bytes).content fs.fresh = bytes :=
  content_fill_self

theorem refusal?_eq_none_iff :
    refusal? l = none ↔
      (∀ name ∈ l.names, '\x00' ∉ name.toList) ∧ l.render.utf8ByteSize < maxLocation := by
  simp only [refusal?, String.contains_char_eq, List.any_eq_true, decide_eq_true_eq]
  split_ifs with hnull hlong
  · obtain ⟨name, hmem, hchar⟩ := hnull
    exact ⟨nofun, fun h => absurd hchar (h.1 name hmem)⟩
  · exact ⟨nofun, fun h => absurd h.2 (Nat.not_lt_of_le hlong)⟩
  · refine ⟨fun _ => ⟨fun name hmem hchar => hnull ⟨name, hmem, hchar⟩, Nat.lt_of_not_le hlong⟩, ?_⟩
    exact fun _ => rfl

/-! ## Following names -/

/-- Names lead from a place to a place, through a number of links at most. -/
inductive Leads (fs : FileSystem) : Nat → Place → List String → Place → Prop
  | here {n : Nat} {p : Place} : Leads fs n p [] p
  | step {n : Nat} {p q r : Place} {name : String} {names : List String}
      (hp : fs.node? p = some .directory) (hq : enter p name = .ok q)
      (hlink : ∀ target, fs.node? q ≠ some (.link target)) (hrest : Leads fs n q names r) :
      Leads fs n p (name :: names) r
  | link {n : Nat} {p q r : Place} {name : String} {names : List String} {target : Location}
      (hp : fs.node? p = some .directory) (hq : enter p name = .ok q)
      (hlink : fs.node? q = some (.link target))
      (hrest : Leads fs n p (target.path ++ names) r) : Leads fs (n + 1) p (name :: names) r

theorem followBy_eq_ok_iff {again : Place → List String → Except String Place}
    (hagain : ∀ p names, again p names = .ok r ↔ ∃ m, n = m + 1 ∧ fs.Leads m p names r) :
    fs.followBy again p names = .ok r ↔ fs.Leads n p names r := by
  induction names generalizing p with
  | nil =>
    constructor
    · rintro ⟨⟩
      exact .here
    · rintro ⟨⟩
      rfl
  | cons name names ih =>
    unfold followBy
    constructor
    · intro h
      split at h
      · rename_i hp
        split at h
        · rename_i q hq
          split at h
          · rename_i target hlink
            obtain ⟨m, rfl, hrest⟩ := (hagain _ _).1 h
            exact .link hp hq hlink hrest
          · rename_i hlink
            exact .step hp hq (fun target htarget => hlink target htarget) (ih.1 h)
        · cases h
      · cases h
      · cases h
    · intro h
      cases h with
      | @step _ _ q _ _ _ hp hq hlink hrest =>
        simp only [hp, hq]
        cases hnode : fs.node? q with
        | none => exact ih.2 hrest
        | some node =>
          cases node with
          | link target => exact absurd hnode (hlink target)
          | directory | file => exact ih.2 hrest
      | link hp hq hlink hrest =>
        simp only [hp, hq, hlink]
        exact (hagain _ _).2 ⟨_, rfl, hrest⟩

theorem follow_eq_ok_iff : fs.follow n p names = .ok r ↔ fs.Leads n p names r := by
  induction n generalizing p names with
  | zero => exact followBy_eq_ok_iff fun p names => ⟨nofun, nofun⟩
  | succ n ih =>
    refine followBy_eq_ok_iff fun p names => ih.trans ⟨fun h => ⟨n, rfl, h⟩, ?_⟩
    rintro ⟨m, hm, h⟩
    cases hm
    exact h

theorem Leads.mono {m : Nat} (h : fs.Leads n p names r) (hle : n ≤ m) : fs.Leads m p names r := by
  induction h generalizing m with
  | here => exact .here
  | step hp hq hlink _ ih => exact .step hp hq hlink (ih hle)
  | link hp hq hlink _ ih =>
    obtain ⟨m, rfl⟩ := Nat.exists_eq_add_one_of_ne_zero (Nat.ne_zero_of_lt hle)
    exact .link hp hq hlink (ih (Nat.le_of_succ_le_succ hle))

theorem Leads.unique {m : Nat} (h : fs.Leads n p names q) (h' : fs.Leads m p names r) : q = r :=
  have hmax := follow_eq_ok_iff.2 (h.mono (Nat.le_max_left n m))
  Except.ok.inj (hmax.symm.trans (follow_eq_ok_iff.2 (h'.mono (Nat.le_max_right n m))))

/-- A walk does not end at a link. -/
theorem Leads.not_link (h : fs.Leads n p names r) (hp : fs.node? p = some .directory)
    (target : Location) : fs.node? r ≠ some (.link target) := by
  have hstart : ∀ target, fs.node? p ≠ some (.link target) := by simp [hp]
  clear hp
  induction h with
  | here => exact hstart target
  | step _ _ hlink _ ih => exact ih hlink
  | link hp _ _ _ ih => exact ih (by simp [hp])

theorem Leads.concat (h : fs.Leads n p names q) (hdirectory : fs.node? q = some .directory)
    (hr : enter q name = .ok r) (hlink : ∀ target, fs.node? r ≠ some (.link target)) :
    fs.Leads n p (names ++ [name]) r := by
  induction h with
  | here => exact .step hdirectory hr hlink .here
  | step hp hq hnext _ ih => exact .step hp hq hnext (ih hdirectory hr)
  | link hp hq htarget _ ih =>
    have hrest := ih hdirectory hr
    rw [List.append_assoc] at hrest
    exact .link hp hq htarget hrest

theorem Leads.split {before rest : List String} (h : fs.Leads n p (before ++ rest) r) :
    ∃ m d, fs.Leads n p before d ∧ fs.Leads m d rest r := by
  generalize hnames : before ++ rest = names at h
  induction h generalizing before with
  | @here n p =>
    obtain ⟨rfl, rfl⟩ := List.append_eq_nil_iff.1 hnames
    exact ⟨n, p, .here, .here⟩
  | @step n p q r first names hp hq hlink hrest ih =>
    cases before with
    | nil =>
      cases hnames
      exact ⟨n, p, .here, .step hp hq hlink hrest⟩
    | cons =>
      cases hnames
      obtain ⟨m, d, hd, hend⟩ := ih rfl
      exact ⟨m, d, .step hp hq hlink hd, hend⟩
  | @link n p q r first names target hp hq hlink hrest ih =>
    cases before with
    | nil =>
      cases hnames
      exact ⟨n + 1, p, .here, .link hp hq hlink hrest⟩
    | cons =>
      cases hnames
      obtain ⟨m, d, hd, hend⟩ := ih (List.append_assoc ..)
      exact ⟨m, d, .link hp hq hlink hd, hend⟩

theorem Leads.exists_enter (h : fs.Leads n p (name :: names) r) :
    fs.node? p = some .directory ∧ ∃ q, enter p name = .ok q := by
  cases h with
  | step hp hq | link hp hq => exact ⟨hp, _, hq⟩

/-- What comes before a name leads to a directory, and the name leads on from there. -/
theorem Leads.exists_before {before rest : List String}
    (h : fs.Leads n p (before ++ name :: rest) r) :
    ∃ d e, fs.Leads n p before d ∧ fs.node? d = some .directory ∧ enter d name = .ok e := by
  obtain ⟨m, d, hd, hrest⟩ := h.split
  obtain ⟨hdirectory, e, he⟩ := hrest.exists_enter
  exact ⟨d, e, hd, hdirectory, he⟩

/-! ## Ways that stay -/

/-- The directories and links of one file system are in another. -/
structure WaysStay (fs fs' : FileSystem) : Prop where
  working : fs'.working = fs.working
  node? : ∀ p node, node.IsWay → fs.node? p = some node → fs'.node? p = some node

theorem Leads.of_waysStay (h : fs.Leads n p names r) (hstay : WaysStay fs fs')
    (hend : ∀ target, fs'.node? r ≠ some (.link target)) : fs'.Leads n p names r := by
  induction h with
  | here => exact .here
  | @step n p q r name names hp hq hlink hrest ih =>
    refine .step (hstay.node? p _ trivial hp) hq (fun target htarget => ?_) (ih hend)
    -- The next place is the end, or a directory that is passed.
    cases hrest with
    | here => exact hend target htarget
    | step hdirectory | link hdirectory =>
      rw [hstay.node? q .directory trivial hdirectory] at htarget
      cases htarget
  | link hp hq hlink _ ih =>
    exact .link (hstay.node? _ _ trivial hp) hq (hstay.node? _ _ trivial hlink) (ih hend)

/-! ## What a location leads to -/

theorem node?_working (fs : FileSystem) : fs.node? fs.working = some .directory :=
  if_pos (List.isPrefixOf_iff_prefix.2 List.prefix_rfl)

theorem place_eq_ok_iff :
    fs.place l = .ok p ↔ refusal? l = none ∧ fs.Leads maxLinks fs.working l.names p := by
  unfold place
  cases refusal? l with
  | none => simp [follow_eq_ok_iff]
  | some reason => simp

/-- The place of the name that a location ends in is in a directory that the names before it lead
to. -/
theorem entry_eq_ok_iff :
    fs.entry l = .ok p ↔ refusal? l = none ∧ ∃ before name d, l.names = before ++ [name] ∧
      fs.Leads maxLinks fs.working before d ∧ fs.node? d = some .directory ∧
        enter d name = .ok p := by
  unfold entry
  constructor
  · intro h
    split at h
    · cases h
    · cases h
    · rename_i name hrefusal hlast
      obtain ⟨before, hnames⟩ := List.getLast?_eq_some_iff.1 hlast
      rw [hnames, List.dropLast_concat] at h
      split at h
      · cases h
      · rename_i d hd
        split at h
        · rename_i hdirectory
          exact ⟨hrefusal, before, name, d, hnames, follow_eq_ok_iff.1 hd, hdirectory, h⟩
        · cases h
        · cases h
  · rintro ⟨hrefusal, before, name, d, hnames, hd, hdirectory, hp⟩
    simp [hrefusal, hnames, follow_eq_ok_iff.2 hd, hdirectory, hp]

/-- The name that a location ends in leads on to the same place, unless there is a link. -/
theorem place_of_entry (h : fs.entry l = .ok p)
    (hlink : ∀ target, fs.node? p ≠ some (.link target)) : fs.place l = .ok p := by
  obtain ⟨hrefusal, before, name, d, hnames, hd, hdirectory, hp⟩ := entry_eq_ok_iff.1 h
  exact place_eq_ok_iff.2 ⟨hrefusal, hnames ▸ hd.concat hdirectory hp hlink⟩

theorem exists_entry_of_place (hnamed : l.names ≠ []) (h : fs.place l = .ok p) :
    ∃ q, fs.entry l = .ok q := by
  obtain ⟨hrefusal, hleads⟩ := place_eq_ok_iff.1 h
  have hnames : l.names = l.names.dropLast ++ [l.names.getLast hnamed] :=
    (List.dropLast_concat_getLast hnamed).symm
  rw [hnames] at hleads
  obtain ⟨d, e, hd, hdirectory, he⟩ := hleads.exists_before
  exact ⟨e, entry_eq_ok_iff.2 ⟨hrefusal, _, _, d, hnames, hd, hdirectory, he⟩⟩

theorem lookup_eq_ok_iff :
    fs.lookup l = .ok node ↔ l.names ≠ [] ∧ (∃ p, fs.place l = .ok p ∧ fs.node? p = some node) ∧
      (node ≠ .directory → l.endsInSlash = false) := by
  unfold lookup
  by_cases hnamed : l.names = []
  · simp [hnamed]
  · rw [if_neg hnamed]
    cases fs.place l with
    | error reason => simp
    | ok p =>
      cases hnode : fs.node? p with
      | none => simp [hnode]
      | some found =>
        simp only [hnode, hnamed, Except.ok.injEq, exists_eq_left', Option.some.injEq, ne_eq,
          not_false_eq_true, true_and]
        split
        · rename_i hslash
          refine iff_of_false nofun ?_
          rintro ⟨rfl, hends⟩
          rw [hends hslash.2] at hslash
          exact Bool.false_ne_true hslash.1
        · rename_i hends
          rw [Except.ok.injEq]
          refine (and_iff_left_of_imp ?_).symm
          rintro rfl hfile
          exact Bool.eq_false_iff.2 fun hslash => hends ⟨hslash, hfile⟩

theorem file_eq_ok_iff_lookup : fs.file l = .ok id ↔ fs.lookup l = .ok (.file id) := by
  unfold file
  split <;> simp_all

theorem file_eq_ok_iff :
    fs.file l = .ok id ↔ l.names ≠ [] ∧ l.endsInSlash = false ∧
      ∃ p, fs.place l = .ok p ∧ fs.node? p = some (.file id) := by
  rw [file_eq_ok_iff_lookup, lookup_eq_ok_iff]
  simp [and_comm]

theorem read_of_file (h : fs.file l = .ok id) : fs.read l = .ok (fs.content id) := by
  rw [read, h]

theorem read_eq_ok_iff :
    fs.read l = .ok bytes ↔ ∃ id, fs.file l = .ok id ∧ fs.content id = bytes := by
  unfold read
  cases fs.file l <;> simp

theorem holds_eq_true_iff : fs.holds l = true ↔ ∃ node, fs.lookup l = .ok node := by
  unfold holds
  split <;> simp_all

theorem holds_of_file (h : fs.file l = .ok id) : fs.holds l = true :=
  holds_eq_true_iff.2 ⟨_, file_eq_ok_iff_lookup.1 h⟩

theorem entry_of_waysStay (h : fs.entry l = .ok p) (hstay : WaysStay fs fs') :
    fs'.entry l = .ok p := by
  obtain ⟨hrefusal, before, name, d, hnames, hd, hdirectory, hp⟩ := entry_eq_ok_iff.1 h
  have hdirectory' : fs'.node? d = some .directory := hstay.node? d .directory trivial hdirectory
  refine entry_eq_ok_iff.2 ⟨hrefusal, before, name, d, hnames, ?_, hdirectory', hp⟩
  rw [hstay.working]
  exact hd.of_waysStay hstay (by simp [hdirectory'])

/-- A link stands where a location ends. -/
def IsLink (fs : FileSystem) (l : Location) : Prop :=
  ∃ p target, fs.entry l = .ok p ∧ fs.node? p = some (.link target)

theorem place_of_not_isLink (h : ¬ fs.IsLink l) (hentry : fs.entry l = .ok p) :
    fs.place l = .ok p :=
  place_of_entry hentry fun target htarget => h ⟨p, target, hentry, htarget⟩

theorem not_isLink_of_entry (hentry : fs.entry l = .ok p)
    (hlink : ∀ target, fs.node? p ≠ some (.link target)) : ¬ fs.IsLink l := by
  rintro ⟨q, target, hq, hnode⟩
  cases hentry.symm.trans hq
  exact hlink target hnode

/-- A file stands where a location ends that leads to it, unless there is a link. -/
theorem exists_entry_of_file (h : ¬ fs.IsLink l) (hfile : fs.file l = .ok id) :
    ∃ p, fs.entry l = .ok p ∧ fs.node? p = some (.file id) := by
  obtain ⟨hnamed, -, p, hplace, hnode⟩ := file_eq_ok_iff.1 hfile
  obtain ⟨q, hq⟩ := exists_entry_of_place hnamed hplace
  cases (place_of_not_isLink h hq).symm.trans hplace
  exact ⟨p, hq, hnode⟩

/-- A plain name is the place of something in the working directory. -/
theorem entry_of_name (hnull : '\x00' ∉ name.toList) (hlength : name.utf8ByteSize ≤ maxName)
    (hroot : name ≠ Location.rootName) (hhere : name ≠ Location.hereName)
    (hback : name ≠ Location.backName) :
    fs.entry { names := [name] } = .ok (fs.working ++ [name]) := by
  have hsize : (Location.render { names := [name] }).utf8ByteSize = name.utf8ByteSize := by
    simp [Location.render, hroot]
  have hrefusal : refusal? { names := [name] } = none :=
    refusal?_eq_none_iff.2
      ⟨by simpa using hnull, hsize ▸ Nat.lt_of_le_of_lt hlength (by decide)⟩
  refine entry_eq_ok_iff.2 ⟨hrefusal, [], name, fs.working, rfl, .here, node?_working fs, ?_⟩
  simp [enter, hroot, hhere, hback, Nat.not_lt_of_le hlength]

/-! ## Operations -/

/-- What opening a file to be written does. -/
inductive Opens (fs : FileSystem) (p : Place) : Nat → FileSystem → Prop
  | emptied {id : Nat} (hnode : fs.node? p = some (.file id)) : Opens fs p id (fs.fill id [])
  | added (hnode : fs.node? p = none) : Opens fs p fs.fresh (fs.addFile p [])

theorem createFile_eq_ok_iff :
    fs.createFile l = .ok (id, fs') ↔ l.names ≠ [] ∧ l.endsInSlash = false ∧
      ∃ p, fs.place l = .ok p ∧ fs.Opens p id fs' := by
  unfold createFile
  constructor
  · intro h
    split_ifs at h with hnamed hslash
    · split at h <;> cases h
    · split at h
      · cases h
      · rename_i p hplace
        split at h
        · rename_i hnode
          cases h
          exact ⟨hnamed, by simpa using hslash, p, hplace, .added hnode⟩
        · rename_i hnode
          cases h
          exact ⟨hnamed, by simpa using hslash, p, hplace, .emptied hnode⟩
        · cases h
  · rintro ⟨hnamed, hslash, p, hplace, hnode | hnode⟩
    · simp [hnamed, hslash, hplace, hnode]
    · simp [hnamed, hslash, hplace, hnode]

theorem Opens.content (h : fs.Opens p id fs') : fs'.content id = [] := by
  cases h with
  | emptied => exact content_fill_self
  | added => exact content_addFile_self

/-- Two file systems differ in one file, which may be missing in the first of them. -/
structure SameBut (p : Place) (id : Nat) (fs fs' : FileSystem) : Prop where
  working : fs'.working = fs.working
  node?_self : fs'.node? p = some (.file id)
  before : fs.node? p = some (.file id) ∨ fs.node? p = none ∧ ∀ q, fs.node? q ≠ some (.file id)
  node? : ∀ q, q ≠ p → fs'.node? q = fs.node? q
  content : ∀ other, other ≠ id → fs'.content other = fs.content other

theorem Opens.sameBut (h : fs.Opens p id fs') : SameBut p id fs fs' := by
  cases h with
  | emptied hnode => exact ⟨rfl, hnode, .inl hnode, fun _ _ => rfl, fun _ => content_fill_of_ne⟩
  | added hnode =>
    have hfree : fs.isGiven p = false := isGiven_of_ne_directory (by simp [hnode])
    exact ⟨rfl, node?_addFile_self hfree, .inr ⟨hnode, fun _ => node?_ne_fresh⟩,
      fun _ => node?_addFile_of_ne, fun _ => content_fill_of_ne⟩

theorem SameBut.append (h : SameBut p id fs fs') (bytes : List UInt8) :
    SameBut p id fs (fs'.append id bytes) where
  working := h.working
  node?_self := h.node?_self
  before := h.before
  node? := h.node?
  content other hother := (content_fill_of_ne hother).trans (h.content other hother)

theorem SameBut.waysStay (h : SameBut p id fs fs') : WaysStay fs fs' := by
  refine ⟨h.working, fun q node hway hq => ?_⟩
  have hne : q ≠ p := by
    rintro rfl
    obtain hbefore | ⟨hnone, -⟩ := h.before
    · cases hbefore.symm.trans hq
      exact hway
    · cases hnone.symm.trans hq
  exact (h.node? q hne).trans hq

/-- Where only a file is new, no way is. -/
theorem SameBut.waysStay_back (h : SameBut p id fs fs') : WaysStay fs' fs := by
  refine ⟨h.working.symm, fun q node hway hq => ?_⟩
  have hne : q ≠ p := by
    rintro rfl
    cases h.node?_self.symm.trans hq
    exact hway
  exact (h.node? q hne).symm.trans hq

theorem SameBut.isLink_back (h : SameBut p id fs fs') (hlink : fs'.IsLink l) : fs.IsLink l := by
  obtain ⟨q, target, hq, hnode⟩ := hlink
  exact ⟨q, target, entry_of_waysStay hq h.waysStay_back,
    h.waysStay_back.node? q _ trivial hnode⟩

/-- A file that is written at the place of a location is found there. -/
theorem SameBut.file (h : SameBut p id fs fs') (hnamed : l.names ≠ [])
    (hslash : l.endsInSlash = false) (hplace : fs.place l = .ok p) : fs'.file l = .ok id := by
  obtain ⟨hrefusal, hleads⟩ := place_eq_ok_iff.1 hplace
  refine file_eq_ok_iff.2 ⟨hnamed, hslash, p, place_eq_ok_iff.2 ⟨hrefusal, ?_⟩, h.node?_self⟩
  rw [h.working]
  exact hleads.of_waysStay h.waysStay (by simp [h.node?_self])

theorem target_eq_ok_iff :
    fs.target l = .ok p ↔ fs.entry l = .ok p ∧ endsInPoints l = false ∧ l.endsInSlash = false ∧
      fs.node? p ≠ some .directory := by
  unfold target
  cases fs.entry l with
  | error reason => simp
  | ok q =>
    dsimp only
    split_ifs with hpoints hslash hdirectory
    · simp [hpoints]
    · simp [hslash]
    · refine iff_of_false nofun ?_
      rintro ⟨⟨⟩, -, -, hfree⟩
      exact hfree hdirectory
    · simp only [Except.ok.injEq]
      refine (and_iff_left_of_imp ?_).symm
      rintro rfl
      exact ⟨by simpa using hpoints, by simpa using hslash, hdirectory⟩

theorem move_eq_ok_iff :
    fs.move source destination = .ok fs' ↔ ∃ p q node, fs.entry source = .ok p ∧
      fs.target destination = .ok q ∧ fs.node? p = some node ∧ node ≠ .directory ∧
        fs' = fs.moved p q node := by
  unfold move
  constructor
  · intro h
    split at h
    · rename_i p q hp hq
      split at h
      · cases h
      · cases h
      · rename_i node hne hnode
        cases h
        exact ⟨p, q, node, hp, hq, hnode, hne, rfl⟩
    · cases h
    · cases h
  · rintro ⟨p, q, node, hp, hq, hnode, hne, rfl⟩
    simp only [hp, hq]
    cases node with
    | directory => exact absurd rfl hne
    | file | link => simp [hnode]

theorem moved_cases (fs : FileSystem) (p q : Place) (node : Node) :
    fs.node? q = some node ∧ fs.moved p q node = fs ∨
      fs.moved p q node = (fs.remove p).put q node := by
  cases node with
  | file id =>
    dsimp only [moved]
    split_ifs with hsame
    · exact .inl ⟨hsame, rfl⟩
    · exact .inr rfl
  | directory | link => exact .inr rfl

theorem content_moved : (fs.moved p q node).content = fs.content := by
  obtain ⟨-, hmoved⟩ | hmoved := moved_cases fs p q node
  · rw [hmoved]
  · rw [hmoved]
    rfl

theorem working_moved : (fs.moved p q node).working = fs.working := by
  obtain ⟨-, hmoved⟩ | hmoved := moved_cases fs p q node
  · rw [hmoved]
  · rw [hmoved]
    rfl

theorem node?_moved_self (hfree : fs.node? q ≠ some .directory) :
    (fs.moved p q node).node? q = some node := by
  obtain ⟨hsame, hmoved⟩ | hmoved := moved_cases fs p q node
  · rw [hmoved, hsame]
  · rw [hmoved]
    exact node?_put_self (isGiven_of_ne_directory hfree : fs.isGiven q = false)

theorem node?_moved_of_ne (hp : r ≠ p) (hq : r ≠ q) :
    (fs.moved p q node).node? r = fs.node? r := by
  obtain ⟨-, hmoved⟩ | hmoved := moved_cases fs p q node
  · rw [hmoved]
  · rw [hmoved, node?_put_of_ne hq, node?_remove_of_ne hp]

/-- Where a file was moved from, there is nothing, or the file stood there before. -/
theorem not_way_moved (hnode : fs.node? p = some (.file id)) (hfree : fs.node? q ≠ some .directory)
    (hway : node.IsWay) (hr : (fs.moved p q (.file id)).node? r = some node) : r ≠ p ∧ r ≠ q := by
  have hq : r ≠ q := by
    rintro rfl
    rw [node?_moved_self hfree] at hr
    cases hr
    exact hway
  refine ⟨?_, hq⟩
  rintro rfl
  obtain ⟨-, hmoved⟩ | hmoved := moved_cases fs r q (.file id)
  · rw [hmoved] at hr
    cases hnode.symm.trans hr
    exact hway
  · rw [hmoved, node?_put_of_ne hq,
      node?_remove_self (isGiven_of_ne_directory (by simp [hnode]))] at hr
    cases hr

/-- A file that was moved is found where it was moved to, if anything is. -/
theorem file_of_move (h : fs.move source destination = .ok fs') (hp : fs.entry source = .ok p)
    (hnode : fs.node? p = some (.file id)) (hholds : fs'.holds destination = true) :
    fs'.file destination = .ok id := by
  obtain ⟨p', q, node, hp', htarget, hnode', -, rfl⟩ := move_eq_ok_iff.1 h
  cases hp.symm.trans hp'
  cases hnode.symm.trans hnode'
  obtain ⟨hq, -, hslash, hfree⟩ := target_eq_ok_iff.1 htarget
  obtain ⟨found, hfound⟩ := holds_eq_true_iff.1 hholds
  obtain ⟨hnamed, ⟨place, hplace, -⟩, -⟩ := lookup_eq_ok_iff.1 hfound
  obtain ⟨q', hq'⟩ := exists_entry_of_place hnamed hplace
  -- The ways after the move were there before, so the location ends at the same place.
  have hstay : WaysStay (fs.moved p q (.file id)) fs := by
    refine ⟨working_moved.symm, fun r node hway hr => ?_⟩
    obtain ⟨hneSource, hneTarget⟩ := not_way_moved hnode hfree hway hr
    rwa [node?_moved_of_ne hneSource hneTarget] at hr
  cases hq.symm.trans (entry_of_waysStay hq' hstay)
  have hself : (fs.moved p q (.file id)).node? q = some (.file id) := node?_moved_self hfree
  exact file_eq_ok_iff.2
    ⟨hnamed, hslash, q, place_of_entry hq' (by simp [hself]), hself⟩

/-- There still is a way to where a file was moved if there is no link in its place. -/
theorem holds_of_move (h : fs.move source destination = .ok fs') (hp : fs.entry source = .ok p)
    (hnode : fs.node? p = some (.file id)) (hlink : ¬ fs.IsLink destination) :
    fs'.holds destination = true := by
  obtain ⟨p', q, node, hp', htarget, hnode', -, rfl⟩ := move_eq_ok_iff.1 h
  cases hp.symm.trans hp'
  cases hnode.symm.trans hnode'
  obtain ⟨hq, -, hslash, hfree⟩ := target_eq_ok_iff.1 htarget
  have hstay : WaysStay fs (fs.moved p q (.file id)) := by
    refine ⟨working_moved, fun r node hway hr => ?_⟩
    have hneSource : r ≠ p := by
      rintro rfl
      cases hnode.symm.trans hr
      exact hway
    have hneTarget : r ≠ q := by
      rintro rfl
      cases node with
      | file => exact hway
      | directory => exact hfree hr
      | link target => exact hlink ⟨r, target, hq, hr⟩
    rwa [node?_moved_of_ne hneSource hneTarget]
  have hself : (fs.moved p q (.file id)).node? q = some (.file id) := node?_moved_self hfree
  have hnamed : destination.names ≠ [] := by
    obtain ⟨-, before, name, d, hnames, -⟩ := entry_eq_ok_iff.1 hq
    simp [hnames]
  exact holds_of_file (file_eq_ok_iff.2
    ⟨hnamed, hslash, q, place_of_entry (entry_of_waysStay hq hstay) (by simp [hself]), hself⟩)

end FileSystem

end PodTunnels.Storage
