import Mathlib.Data.List.TakeDrop
import Mathlib.Data.List.TakeWhile
import PodTunnels.Config.Store
import PodTunnels.Proofs.Directories

/-!
# The temporary file

The temporary file has a name of its own in the directory of the configuration
(`entry_ne_of_temporary`). Where a link stands in its place, what is written goes to where the link
leads, and it is the link that is moved. Since it stays in its directory it leads to the same file
from the new place. Only where its way comes back to that place it leads nowhere now; so the file is
found there if anything is (`file_of_moved_link`).
-/

namespace PodTunnels

open Storage

/-! ## A link that is moved -/

namespace Storage.FileSystem

variable {fs fs' : FileSystem} {source destination : Location} {d e p r t : Place}
  {first name : String} {names rest : List String} {target : Location} {node : Node} {id n k : Nat}

/-- The names before the one that a location ends in lead to its directory. -/
theorem Rooted.exists_leads_of_entry {l : Location} (h : fs.Rooted)
    (hentry : fs.entry l = .ok (d ++ [name])) (hfree : fs.node? (d ++ [name]) ≠ some .directory) :
    ∃ before last, l.names = before ++ [last] ∧ fs.Leads maxLinks fs.working before d ∧
      enter d last = .ok (d ++ [name]) := by
  obtain ⟨-, before, last, e, hnames, he, hdirectory, henter⟩ := entry_eq_ok_iff.1 hentry
  have hsame := h.exists_directory_of_enter hdirectory henter hfree
  obtain ⟨rfl, -⟩ := List.append_inj' hsame rfl
  exact ⟨before, last, hnames, he, henter⟩

/-- A link was moved from a place to a name in a directory. -/
structure Relinks (fs fs' : FileSystem) (p d : Place) (name : String) (target : Location) :
    Prop where
  working : fs'.working = fs.working
  gone : fs'.node? p = none
  link : fs'.node? (d ++ [name]) = some (.link target)
  node? : ∀ r, r ≠ p → r ≠ d ++ [name] → fs'.node? r = fs.node? r
  rooted : fs'.Rooted

theorem relinks_of_move (hrooted : fs.Rooted) (hmoved : fs.move source destination = .ok fs')
    (hp : fs.entry source = .ok p) (hq : fs.entry destination = .ok (d ++ [name]))
    (hne : p ≠ d ++ [name]) (hlink : fs.node? p = some (.link target)) :
    Relinks fs fs' p d name target := by
  have hrooted' := hrooted.move hmoved
  obtain ⟨p', q, node, hp', htarget, hnode, -, rfl⟩ := move_eq_ok_iff.1 hmoved
  cases hp.symm.trans hp'
  cases hlink.symm.trans hnode
  obtain ⟨hq', -, -, hfree⟩ := target_eq_ok_iff.1 htarget
  cases hq.symm.trans hq'
  refine ⟨working_moved, ?_, node?_moved_self hfree, fun r => node?_moved_of_ne, hrooted'⟩
  exact (node?_put_of_ne hne).trans (node?_remove_self (isGiven_of_ne_directory (by simp [hlink])))

namespace Relinks

theorem before (h : Relinks fs fs' p d name target) (hnode : fs'.node? r = some node)
    (hne : r ≠ d ++ [name]) : fs.node? r = some node := by
  have hplace : r ≠ p := by
    rintro rfl
    cases h.gone.symm.trans hnode
  exact (h.node? r hplace hne).symm.trans hnode

/-- Names lead where they led before, unless they come to the link. -/
theorem leads_or (h : Relinks fs fs' p d name target) (hleads : fs'.Leads n e names r)
    (hr : fs'.node? r ≠ none) :
    fs.Leads n e names r ∨ ∃ m < n, ∃ rest, fs'.Leads m d (target.path ++ rest) r := by
  induction hleads with
  | here => exact .inl .here
  | @step n e q r other names he hq hlink hrest ih =>
    have hdirectory : fs.node? e = some .directory := by
      refine h.before he ?_
      rintro rfl
      cases h.link.symm.trans he
    refine (ih hr).imp_left (.step hdirectory hq fun target' htarget => ?_)
    have hplace : q ≠ p := by
      rintro rfl
      -- Nothing leads on from where the link was.
      cases hrest with
      | here => exact hr h.gone
      | step hq' | link hq' => cases h.gone.symm.trans hq'
    have hname : q ≠ d ++ [name] := by
      rintro rfl
      exact hlink target h.link
    exact hlink target' ((h.node? q hplace hname).trans htarget)
  | @link n e q r other names target' he hq htarget hrest ih =>
    by_cases hname : q = d ++ [name]
    · subst hname
      cases h.link.symm.trans htarget
      have hsame := h.rooted.exists_directory_of_enter he hq (by simp [h.link])
      obtain rfl := (List.append_inj' hsame rfl).1
      exact .inr ⟨n, Nat.lt_succ_self n, names, hrest⟩
    · have hdirectory : fs.node? e = some .directory := by
        refine h.before he ?_
        rintro rfl
        cases h.link.symm.trans he
      obtain hleads | ⟨m, hm, hleads⟩ := ih hr
      · exact .inl (.link hdirectory hq (h.before htarget hname) hleads)
      · exact .inr ⟨m, Nat.lt_succ_of_lt hm, hleads⟩

/-- What is behind the link leads to the file that it led to before, for a way that comes back to
the link does not end. -/
theorem eq_of_leads (h : Relinks fs fs' p d name target) (ht : fs.Leads k d target.path t)
    (hfile : fs.node? t = some (.file id)) (hleads : fs'.Leads n d (target.path ++ rest) r)
    (hr : fs'.node? r ≠ none) : r = t := by
  induction n using Nat.strongRecOn generalizing rest with
  | ind n ih =>
    obtain hbefore | ⟨m, hm, rest', hback⟩ := h.leads_or hleads hr
    · obtain ⟨m, e, he, hrest⟩ := hbefore.split
      cases he.unique ht
      cases hrest with
      | here => rfl
      | step hdirectory | link hdirectory => cases hfile.symm.trans hdirectory
    · exact ih m hm hback

/-- The names before the one that the link was moved to lead to its directory still, if the whole
leads to anything. -/
theorem entry (h : Relinks fs fs' p d name target) (hq : fs.entry destination = .ok (d ++ [name]))
    (hrooted : fs.Rooted) (hfree : fs.node? (d ++ [name]) ≠ some .directory)
    (ht : fs.Leads k d target.path t) (hfile : fs.node? t = some (.file id))
    (hplace : fs'.place destination = .ok r) : fs'.entry destination = .ok (d ++ [name]) := by
  obtain ⟨before, last, hnames, he, henter⟩ := hrooted.exists_leads_of_entry hq hfree
  obtain ⟨hrefusal, hleads⟩ := place_eq_ok_iff.1 hplace
  rw [hnames] at hleads
  obtain ⟨e, -, he', hdirectory', -⟩ := hleads.exists_before
  have hend : e = d := by
    obtain hbefore | ⟨m, -, rest, hback⟩ := h.leads_or he' (by simp [hdirectory'])
    · rw [h.working] at hbefore
      exact hbefore.unique he
    · -- The way would end at the file.
      obtain rfl := h.eq_of_leads ht hfile hback (by simp [hdirectory'])
      have hne : e ≠ d ++ [name] := by
        rintro rfl
        cases h.link.symm.trans hdirectory'
      cases hfile.symm.trans (h.before hdirectory' hne)
  exact entry_eq_ok_iff.2 ⟨hrefusal, before, last, e, hnames, he', hdirectory', hend ▸ henter⟩

end Relinks

/-- The way to a link goes on from its directory. -/
theorem Rooted.exists_leads_of_link {l : Location} (hrooted : fs.Rooted)
    (hp : fs.entry l = .ok (d ++ [name])) (hlink : fs.node? (d ++ [name]) = some (.link target))
    (hplace : fs.place l = .ok t) : ∃ k, fs.Leads k d target.path t := by
  obtain ⟨before, last, hnames, he, henter⟩ := hrooted.exists_leads_of_entry hp (by simp [hlink])
  have hleads := (place_eq_ok_iff.1 hplace).2
  rw [hnames] at hleads
  obtain ⟨m, e, he', hlast⟩ := hleads.split
  obtain rfl := he'.unique he
  cases hlast with
  | step _ hq hplain =>
    cases hq.symm.trans henter
    exact absurd hlink (hplain target)
  | link _ hq htarget hrest =>
    cases hq.symm.trans henter
    cases hlink.symm.trans htarget
    rw [List.append_nil] at hrest
    exact ⟨_, hrest⟩

/-- A link that was moved within its directory leads to the file that it led to, if it leads to
anything. -/
theorem file_of_moved_link (hrooted : fs.Rooted) (hmoved : fs.move source destination = .ok fs')
    (hp : fs.entry source = .ok (d ++ [first])) (hq : fs.entry destination = .ok (d ++ [name]))
    (hne : first ≠ name) (hlink : fs.node? (d ++ [first]) = some (.link target))
    (hfile : fs.file source = .ok id) (hholds : fs'.holds destination = true) :
    fs'.file destination = .ok id := by
  have h := relinks_of_move hrooted hmoved hp hq (by simpa using hne) hlink
  obtain ⟨-, q, -, -, htarget, -⟩ := move_eq_ok_iff.1 hmoved
  obtain ⟨hq', -, hslash, hfree⟩ := target_eq_ok_iff.1 htarget
  cases hq.symm.trans hq'
  obtain ⟨-, -, t, ht, hnode⟩ := file_eq_ok_iff.1 hfile
  obtain ⟨k, hleads⟩ := hrooted.exists_leads_of_link hp hlink ht
  obtain ⟨found, hfound⟩ := holds_eq_true_iff.1 hholds
  obtain ⟨hnamed, ⟨r, hr, hthere⟩, -⟩ := lookup_eq_ok_iff.1 hfound
  obtain ⟨m, hback⟩ := h.rooted.exists_leads_of_link
    (h.entry hq hrooted hfree hleads hnode hr) h.link hr
  rw [← List.append_nil target.path] at hback
  obtain rfl := h.eq_of_leads hleads hnode hback (by simp [hthere])
  -- The way does not end at the link, and the other places are as before.
  have hname : r ≠ d ++ [name] := by
    rintro rfl
    exact (place_eq_ok_iff.1 hr).2.not_link (node?_working fs') target h.link
  cases hnode.symm.trans (h.before hthere hname)
  exact file_eq_ok_iff.2 ⟨hnamed, hslash, r, hr, hthere⟩

end Storage.FileSystem

/-! ## The temporary file -/

namespace Storage.Location

/-- What comes before the last point of a name and what comes after it. -/
theorem stem_cases (name : String) :
    stem name = name ∨ ∃ ending : List Char, '.' ∉ ending ∧
      name.toList = (stem name).toList ++ '.' :: ending := by
  unfold stem
  rw [List.span_eq_takeWhile_dropWhile]
  have hsplit := List.takeWhile_append_dropWhile (p := (· ≠ '.')) (l := name.toList.reverse)
  split
  · rename_i ending first rest hspan
    obtain ⟨hending, hrest⟩ := Prod.mk.inj hspan
    refine .inr ⟨ending.reverse, ?_, ?_⟩
    · rw [List.mem_reverse, ← hending]
      intro hpoint
      simpa using List.mem_takeWhile_imp hpoint
    · rw [hending, hrest] at hsplit
      have := congrArg List.reverse hsplit
      simpa using this.symm
  · exact .inl rfl

theorem stem_append_ne (name : String) : stem name ++ "." ++ "json.tmp" ≠ name := by
  intro hsame
  have hlist : (stem name).toList ++ ".json.tmp".toList = name.toList := by
    conv_rhs => rw [← hsame]
    simp
  obtain hwhole | ⟨ending, hpoint, hname⟩ := stem_cases name
  · rw [hwhole] at hlist
    simp at hlist
  · rw [hname, List.append_right_inj] at hlist
    -- What follows the stem has a second point in it.
    rw [← List.tail_eq_of_cons_eq hlist] at hpoint
    exact hpoint (by decide)

end Storage.Location

namespace ConfigStore

open FileSystem

variable {fs fs' : FileSystem} {l : Location} {name : String} {p : Place} {id : Nat}

def temporaryName (name : String) : String :=
  Location.stem name ++ "." ++ "json.tmp"

theorem temporaryName_toList (name : String) :
    (temporaryName name).toList = (Location.stem name).toList ++ ".json.tmp".toList := by
  simp [temporaryName]

theorem temporaryName_ne_of_short {short : String} (h : short.toList.length < 9) :
    temporaryName name ≠ short := by
  intro hsame
  have hlength := congrArg List.length (temporaryName_toList name)
  rw [hsame, List.length_append] at hlength
  have hending : ".json.tmp".toList.length = 9 := by decide
  omega

theorem temporary_eq (hname : l.fileName? = some name) :
    temporary l = { names := l.steps.dropLast ++ [temporaryName name] } := by
  rw [temporary, Location.withExtension, hname]
  rfl

theorem steps_temporary (hname : l.fileName? = some name) :
    (temporary l).steps = l.steps.dropLast ++ [temporaryName name] := by
  rw [temporary_eq hname, Location.steps, List.filter_eq_self]
  intro other hother
  rcases List.mem_append.1 hother with hother | hother
  · exact (List.mem_filter.1 (List.dropLast_subset _ hother)).2
  · rw [List.mem_singleton.1 hother]
    exact decide_eq_true (temporaryName_ne_of_short (by decide))

theorem fileName?_temporary (hname : l.fileName? = some name) :
    (temporary l).fileName? = some (temporaryName name) := by
  have hroot : temporaryName name ≠ Location.rootName := temporaryName_ne_of_short (by decide)
  have hback : temporaryName name ≠ Location.backName := temporaryName_ne_of_short (by decide)
  rw [Location.fileName?, steps_temporary hname, List.getLast?_concat, Option.filter_some]
  simp [hroot, hback]

/-- The temporary file has a path of its own. -/
theorem steps_temporary_ne (hname : l.fileName? = some name) : (temporary l).steps ≠ l.steps := by
  intro hsame
  rw [steps_temporary hname] at hsame
  have hnames := List.append_cancel_left (hsame.trans (steps_of_fileName? hname).1)
  exact Location.stem_append_ne name (List.head_eq_of_cons_eq hnames)

theorem endsInPoints_temporary (hname : l.fileName? = some name) :
    endsInPoints (temporary l) = false := by
  have hhere : temporaryName name ≠ Location.hereName := temporaryName_ne_of_short (by decide)
  have hback : temporaryName name ≠ Location.backName := temporaryName_ne_of_short (by decide)
  simp [endsInPoints, temporary_eq hname, hhere, hback]

/-- The temporary file has a name of its own in the same directory. -/
theorem entry_ne_of_temporary (hname : l.fileName? = some name) (hpoints : endsInPoints l = false)
    (hentry : fs.entry (temporary l) = .ok p) : fs.entry l ≠ .ok p := by
  intro hsame
  obtain ⟨d, hd, -, rfl⟩ := exists_directory_of_entry hname hpoints hsame
  obtain ⟨d', hd', -, hp⟩ := exists_directory_of_entry (fileName?_temporary hname)
    (endsInPoints_temporary hname) hentry
  rw [steps_temporary hname, List.dropLast_concat] at hd'
  cases hd.unique hd'
  have hnames : [name] = [temporaryName name] := List.append_cancel_left hp
  exact Location.stem_append_ne name (List.head_eq_of_cons_eq hnames).symm

theorem exists_fileName_of_target (h : fs.target l = .ok p) : ∃ name, l.fileName? = some name := by
  obtain ⟨hentry, hpoints, -, hfree⟩ := target_eq_ok_iff.1 h
  obtain ⟨-, before, last, d, hnames, -, hdirectory, henter⟩ := entry_eq_ok_iff.1 hentry
  have hhere : last ≠ Location.hereName := by
    rintro rfl
    simp [endsInPoints, hnames] at hpoints
  have hback : last ≠ Location.backName := by
    rintro rfl
    simp [endsInPoints, hnames] at hpoints
  have hroot : last ≠ Location.rootName := by
    rintro rfl
    cases henter
    exact hfree (if_pos (List.isPrefixOf_iff_prefix.2 List.nil_prefix))
  refine ⟨last, ?_⟩
  simp [Location.fileName?, Location.steps, hnames, hhere, hback, hroot]

/-- What was written is found where the temporary file is moved to, if anything is. -/
theorem file_of_moved_temporary (hmoved : fs.move (temporary l) l = .ok fs')
    (hfile : fs.file (temporary l) = .ok id) (hway : fs.Rooted ∨ ¬ fs.IsLink (temporary l))
    (hholds : fs'.holds l = true) : fs'.file l = .ok id := by
  by_cases hlink : fs.IsLink (temporary l)
  · obtain ⟨p, target, hp, hnode⟩ := hlink
    obtain ⟨-, q, -, -, htarget, -⟩ := move_eq_ok_iff.1 hmoved
    obtain ⟨hq, hpoints, -⟩ := target_eq_ok_iff.1 htarget
    obtain ⟨name, hname⟩ := exists_fileName_of_target htarget
    obtain ⟨d, hd, -, rfl⟩ := exists_directory_of_entry hname hpoints hq
    obtain ⟨d', hd', -, rfl⟩ := exists_directory_of_entry (fileName?_temporary hname)
      (endsInPoints_temporary hname) hp
    rw [steps_temporary hname, List.dropLast_concat] at hd'
    obtain rfl := hd'.unique hd
    have hrooted := hway.resolve_right fun hplain => hplain ⟨_, target, hp, hnode⟩
    exact file_of_moved_link hrooted hmoved hp hq (Location.stem_append_ne name) hnode hfile hholds
  · obtain ⟨p, hp, hnode⟩ := exists_entry_of_file hlink hfile
    exact file_of_move hmoved hp hnode hholds

end ConfigStore

end PodTunnels
