import PodTunnels.Proofs.Configuration
import PodTunnels.Proofs.Cutting

/-!
# The file is replaced in one step

A save works beside the file of the configuration until its last step moves the new file into place.
The temporary file has a name of its own in the same directory (`entry_ne_of_temporary`). So where a
save stops before that step, because one fails or because it is cut off (`Unfinished`), nothing has
changed but the temporary file, and a later load gives what it would have given before
(`save_all_or_nothing`).

Three things can come between (`save_not_atomic`). A refusal to write the last piece of the text is
not noticed: the save moves into place what there is, and succeeds (`load_of_refused_write`). A link
in the place of the temporary file can lead to the configuration, which is then written itself
(`load_of_linked_save`). And a location that steps back out of a directory leads nowhere while that
directory is missing. A save makes it, and if it fails after that, the location leads to what stands
behind the step back (`load_of_obstructed_save`). No other location is opened in that way where
everything stands in a directory, and a save keeps everything in a directory (`rooted_save`,
`rooted_afterSaves`).
-/

namespace PodTunnels

open Storage

variable {s : ConfigStore} {faults : Faults} {step : ConfigStep} {c : Config} {e : Failure}
  {fs fs' made after : FileSystem} {l directory : Location} {name reason : String} {p t : Place}
  {id n : Nat}

/-! ## Names of a text -/

namespace Storage.Location

/-- Only the first name of a text can be the root. -/
theorem rootName_not_mem_tail_steps (text : String) : rootName ∉ (ofText text).steps.tail := by
  have hpieces : rootName ∉ (Text.splitAll '/' text).filter (· ≠ "") := by
    intro hmem
    obtain ⟨part, hpart, hroot⟩ := List.mem_map.1 (List.mem_filter.1 hmem).1
    have hslash : '/' ∈ part := by
      rw [← String.toList_ofList (l := part), hroot]
      decide
    exact Text.not_mem_of_mem_cutAll hpart hslash
  have hsteps : rootName ∉ ((Text.splitAll '/' text).filter (· ≠ "")).filter (· ≠ hereName) :=
    fun hmem => hpieces (List.mem_filter.1 hmem).1
  unfold ofText steps
  dsimp only
  split
  · rw [List.filter_cons_of_pos (by decide), List.tail_cons]
    exact hsteps
  · exact fun hmem => hsteps (List.mem_of_mem_tail hmem)

end Storage.Location

namespace ConfigStore

open FileSystem Saving

/-! ## A save that has not come to its end -/

theorem directories_eq (hname : s.location.fileName? = some name) :
    s.directories = Location.waysFrom [] s.location.steps.dropLast := by
  obtain ⟨hsteps, hplain⟩ := steps_of_fileName? hname
  have hnamed : s.location.names ≠ [] := by
    intro hnil
    rw [Location.steps, hnil] at hsteps
    simp at hsteps
  have hroot : s.location.steps ≠ [Location.rootName] := by
    intro hroot
    rw [hroot] at hsteps
    exact hplain.1 (List.head_eq_of_cons_eq hsteps).symm
  have hparent : s.location.parent? = some { names := s.location.steps.dropLast } := by
    simp [Location.parent?, hnamed, hroot]
  rw [directories, hparent]
  refine Location.ways_eq_waysFrom (List.filter_eq_self.2 fun other hother => ?_)
  exact (List.mem_filter.1 (List.dropLast_subset _ hother)).2

/-- What a save has done to a file system before its last step is done. It is at work on the
directories, or has begun the temporary file in the last of them, or has written some of the text
there. -/
inductive Unfinished (s : ConfigStore) (c : Config) (fs : FileSystem) : FileSystem → Prop where
  | making (n : Nat) : Unfinished s c fs (fs.makeEach (s.directories.take n)).2
  | begun {made begun : FileSystem} {id : Nat} (hmade : fs.makeEach s.directories = (.ok (), made))
      (hbegun : made.createFile (temporary s.location) = .ok (id, begun)) : Unfinished s c fs begun
  | written {made begun : FileSystem} {id : Nat} (n : Nat)
      (hmade : fs.makeEach s.directories = (.ok (), made))
      (hbegun : made.createFile (temporary s.location) = .ok (id, begun)) :
      Unfinished s c fs (begun.append id ((Text.Utf8.encode c.render).take n))

theorem outcome_bind_eq_error_iff {α β : Type} {x : Saving α} {f : α → Saving β} :
    outcome (x >>= f) fs = (.error e, after) ↔ outcome x fs = (.error e, after) ∨
      ∃ a mid, outcome x fs = (.ok a, mid) ∧ outcome (f a) mid = (.error e, after) := by
  rw [outcome_bind]
  rcases outcome x fs with ⟨_ | a, mid⟩
  · simp
  · constructor
    · exact fun h => .inr ⟨a, mid, rfl, h⟩
    · rintro (h | ⟨_, _, ⟨rfl, rfl⟩, h⟩)
      · cases h
      · exact h

theorem eq_of_attempt_error {α : Type} {act : FileSystem → Except String (α × FileSystem)}
    (h : outcome (attempt faults step (whole act)) fs = (.error e, after)) : after = fs := by
  rw [outcome_attempt] at h
  unfold whole at h
  split at h
  · exact (Prod.mk.inj h).2.symm
  · split at h
    · cases (Prod.mk.inj h).1
    · exact (Prod.mk.inj h).2.symm

theorem exists_kept_eq_take (faults : Faults) (bytes : List UInt8) :
    ∃ n, faults.kept bytes = bytes.take n := by
  unfold Faults.kept
  split
  · exact ⟨_, rfl⟩
  · exact ⟨bytes.length, List.take_length.symm⟩

theorem unfinished_of_replacing (hmade : fs.makeEach s.directories = (.ok (), made))
    (h : outcome (s.replacing faults c) made = (.error e, after)) : s.Unfinished c fs after := by
  have hall : (fs.makeEach (s.directories.take s.directories.length)).2 = made := by
    rw [List.take_length, hmade]
  unfold replacing at h
  obtain hfailed | ⟨id, begun, hbegun, h⟩ := outcome_bind_eq_error_iff.1 h
  · rw [eq_of_attempt_error hfailed, ← hall]
    exact .making _
  replace hbegun := whole_eq_ok_iff.1 (outcome_attempt_eq_ok_iff.1 hbegun).2
  obtain ⟨n, hkept⟩ := exists_kept_eq_take faults (Text.Utf8.encode c.render)
  obtain hfailed | ⟨_, written, hwritten, h⟩ := outcome_bind_eq_error_iff.1 h
  · rw [outcome_write, hkept] at hfailed
    rw [← (Prod.mk.inj hfailed).2]
    exact .written n hmade hbegun
  obtain ⟨-, rfl⟩ := outcome_write_eq_ok_iff.1 hwritten
  rw [hkept] at h
  obtain hfailed | ⟨_, synced, hsynced, h⟩ := outcome_bind_eq_error_iff.1 h
  · rw [eq_of_attempt_error hfailed]
    exact .written n hmade hbegun
  cases whole_eq_ok_iff.1 (outcome_attempt_eq_ok_iff.1 hsynced).2
  rw [eq_of_attempt_error h]
  exact .written n hmade hbegun

theorem unfinished_makeDirectory (h : s.directories = directory.ways) :
    s.Unfinished c fs (fs.makeDirectory directory).2 := by
  unfold makeDirectory
  split
  · exact .making 0
  · rw [← h, ← List.take_length (l := s.directories)]
    exact .making _

/-- A save that fails stops before its end. -/
theorem unfinished_of_error (h : s.save faults c fs = (.error e, after)) :
    s.Unfinished c fs after := by
  have hsaving : outcome (s.saving faults c) fs = (.error e, after) := h
  rw [saving_eq] at hsaving
  split at hsaving
  · rename_i directory hparent
    have hways : s.directories = directory.ways := by
      rw [directories, hparent, Option.map_some, Option.getD_some]
    obtain hfailed | ⟨_, made, hmade, hrest⟩ := outcome_bind_eq_error_iff.1 hsaving
    · rw [outcome_attempt] at hfailed
      split at hfailed
      · cases hfailed
        exact .making 0
      · rw [← (Prod.mk.inj hfailed).2]
        exact unfinished_makeDirectory hways
    · exact unfinished_of_replacing
        (hways ▸ makeEach_of_makeDirectory (outcome_attempt_eq_ok_iff.1 hmade).2) hrest
  · rename_i hparent
    refine unfinished_of_replacing ?_ hsaving
    rw [directories, hparent]
    rfl

/-- Before its last step a save has made directories, and changed the temporary file if any. -/
theorem Unfinished.exists_made (h : s.Unfinished c fs after) :
    ∃ n made, made = (fs.makeEach (s.directories.take n)).2 ∧ (after = made ∨
      made = s.ready fs ∧ ∃ t id, made.place (temporary s.location) = .ok t ∧
        after.file (temporary s.location) = .ok id ∧ SameBut t id made after) := by
  have hall {made : FileSystem} (hmade : fs.makeEach s.directories = (.ok (), made)) :
      made = (fs.makeEach (s.directories.take s.directories.length)).2 ∧ made = s.ready fs := by
    rw [List.take_length, ready, hmade]
    exact ⟨rfl, rfl⟩
  cases h with
  | making n => exact ⟨n, _, rfl, .inl rfl⟩
  | begun hmade hbegun =>
    obtain ⟨hnamed, hslash, t, ht, hopens⟩ := createFile_eq_ok_iff.1 hbegun
    exact ⟨_, _, (hall hmade).1, .inr ⟨(hall hmade).2, t, _, ht,
      hopens.sameBut.file hnamed hslash ht, hopens.sameBut⟩⟩
  | written n hmade hbegun =>
    obtain ⟨hnamed, hslash, t, ht, hopens⟩ := createFile_eq_ok_iff.1 hbegun
    have hsame := hopens.sameBut.append ((Text.Utf8.encode c.render).take n)
    exact ⟨_, _, (hall hmade).1, .inr ⟨(hall hmade).2, t, _, ht, hsame.file hnamed hslash ht,
      hsame⟩⟩

/-- A save keeps everything in a directory, whether it fails or not. -/
theorem rooted_save (s : ConfigStore) (faults : Faults) (c : Config) (hrooted : fs.Rooted) :
    (s.save faults c fs).2.Rooted := by
  have hready : (s.ready fs).Rooted := hrooted.makeEach _
  rcases hsave : s.save faults c fs with ⟨_ | _, after⟩
  · obtain ⟨n, made, rfl, rfl | ⟨hmade, t, id, ht, -, hsame⟩⟩ :=
      (unfinished_of_error hsave).exists_made
    · exact hrooted.makeEach _
    · rw [hmade] at hsame ht
      exact hsame.rooted hready ht
  · obtain ⟨id, begun, -, hbegun, -, -, -, hmoved⟩ :=
      outcome_replacing_eq_ok_iff.1 (outcome_replacing_of_save hsave)
    obtain ⟨-, -, t, ht, hopens⟩ := createFile_eq_ok_iff.1 hbegun
    exact ((hopens.sameBut.append _).rooted hready ht).move hmoved

/-- What saves, one after the other, make of a file system. -/
def afterSaves (fs : FileSystem) (saves : List (ConfigStore × Faults × Config)) : FileSystem :=
  saves.foldl (fun fs (s, faults, c) => (s.save faults c fs).2) fs

/-- After any saves, beginning with an empty file system, everything stands in a directory. -/
theorem rooted_afterSaves (saves : List (ConfigStore × Faults × Config)) :
    (afterSaves {} saves).Rooted :=
  List.foldlRecOn saves _ rooted_empty fun _ hrooted (s, faults, c) _ =>
    rooted_save s faults c hrooted

/-! ## What is left alone -/

/-- The temporary file and the configuration are one file. -/
def Shares (s : ConfigStore) (fs : FileSystem) : Prop :=
  ∃ id, fs.file (temporary s.location) = .ok id ∧ fs.file s.location = .ok id

/-- The directory of the configuration was missing, and now there is something in the place of the
configuration. -/
def Uncovers (s : ConfigStore) (fs after : FileSystem) : Prop :=
  ¬ fs.HasDirectory s.location ∧ ∃ node, after.lookup s.location = .ok node

/-- What a save that has not come to its end leaves alone: everything but what is in the temporary
file. With that what is read and loaded stays, unless the temporary file is the configuration
itself, or the save has opened a way that was missing. Such a way steps back, and leads to a file
only if that was there before. -/
structure Spares (s : ConfigStore) (fs after : FileSystem) : Prop where
  nodes : ∀ p node, fs.node? p = some node → after.node? p = some node
  contents : ∀ id, after.content id = fs.content id ∨ after.file (temporary s.location) = .ok id
  bytes : ¬ s.Uncovers fs after → ¬ s.Shares after →
    ∀ content, after.read s.location = .ok content ↔ fs.read s.location = .ok content
  load : ¬ s.Uncovers fs after → ¬ s.Shares after → s.load after = s.load fs
  stepsBack : fs.Rooted → s.Uncovers fs after → Location.backName ∈ s.location.names
  found : s.Uncovers fs after → ¬ s.Shares after → ∀ id, after.file s.location = .ok id →
    (∃ p, after.place s.location = .ok p ∧ fs.node? p = some (.file id)) ∧
      after.content id = fs.content id

theorem Unfinished.node?_of_some {node : Node} (h : s.Unfinished c fs after)
    (hnode : fs.node? p = some node) : after.node? p = some node := by
  obtain ⟨n, made, rfl, rfl | ⟨-, t, id, -, -, hsame⟩⟩ := h.exists_made
  · exact (onlyMakes_makeEach fs _).node?_of_some hnode
  · have hstays := (onlyMakes_makeEach fs (s.directories.take n)).node?_of_some hnode
    by_cases hp : p = t
    · subst hp
      obtain hbefore | ⟨hnone, -⟩ := hsame.before
      · rw [hsame.node?_self, ← hbefore, hstays]
      · cases hnone.symm.trans hstays
    · rw [hsame.node? p hp, hstays]

theorem Unfinished.content_eq_or (h : s.Unfinished c fs after) (id : Nat) :
    after.content id = fs.content id ∨ after.file (temporary s.location) = .ok id := by
  obtain ⟨n, made, rfl, rfl | ⟨-, t, other, -, hfile, hsame⟩⟩ := h.exists_made
  · exact .inl (congrFun (onlyMakes_makeEach fs _).content id)
  · by_cases hid : id = other
    · exact .inr (hid ▸ hfile)
    · rw [hsame.content id hid, (onlyMakes_makeEach fs _).content]
      exact .inl rfl

/-- What is not shared with the temporary file is the same afterwards. -/
theorem Unfinished.content_of_not_shares (h : s.Unfinished c fs after)
    (hshares : ¬ s.Shares after) (hfile : after.file s.location = .ok id) :
    after.content id = fs.content id :=
  (h.content_eq_or id).resolve_right fun htemporary => hshares ⟨id, htemporary, hfile⟩

/-- What is at the place of the configuration afterwards was there before, if it is not the
temporary file, or is a directory. -/
theorem Unfinished.node_cases {node : Node} (h : s.Unfinished c fs after)
    (hshares : ¬ s.Shares after) (hlookup : after.lookup s.location = .ok node)
    (hplace : after.place s.location = .ok p) :
    fs.node? p = some node ∨ node = .directory := by
  obtain ⟨hnamed, ⟨p', hplace', hnode⟩, hslash⟩ := FileSystem.lookup_eq_ok_iff.1 hlookup
  cases hplace.symm.trans hplace'
  obtain ⟨n, made, rfl, rfl | ⟨-, t, id, -, hfile, hsame⟩⟩ := h.exists_made
  · obtain hkept | ⟨-, hnew⟩ := (onlyMakes_makeEach fs (s.directories.take n)).node? p
    · exact .inl (hkept.symm.trans hnode)
    · exact .inr (Option.some.inj (hnode.symm.trans hnew))
  · have hne : p ≠ t := by
      rintro rfl
      cases hnode.symm.trans hsame.node?_self
      exact hshares ⟨id, hfile, file_eq_ok_iff_lookup.2 hlookup⟩
    obtain hkept | ⟨-, hnew⟩ := (onlyMakes_makeEach fs (s.directories.take n)).node? p
    · exact .inl ((hkept.symm.trans (hsame.node? p hne).symm).trans hnode)
    · exact .inr (Option.some.inj (hnode.symm.trans ((hsame.node? p hne).trans hnew)))

/-- Where the directory is there, the place of the configuration leads to what it led to. -/
theorem Unfinished.lookup_eq_ok_iff {node : Node} (h : s.Unfinished c fs after)
    (hname : s.location.fileName? = some name) (hdirectory : fs.HasDirectory s.location)
    (hshares : ¬ s.Shares after) :
    after.lookup s.location = .ok node ↔ fs.lookup s.location = .ok node := by
  obtain ⟨d, hd, hnode⟩ := hdirectory
  obtain ⟨n, made, hmade, hafter⟩ := h.exists_made
  rw [directories_eq hname, Location.take_waysFrom, makeEach_of_leads hd hnode] at hmade
  rw [hmade] at hafter
  obtain rfl | ⟨-, t, id, ht, hfile, hsame⟩ := hafter
  · rfl
  have hstays (p : Place) (hplace : fs.place s.location = .ok p) (hnamed : s.location.names ≠ [])
      (hslash : node ≠ .directory → s.location.endsInSlash = false) :
      after.node? p = some node ↔ fs.node? p = some node := by
    by_cases hp : p = t
    · subst hp
      obtain hbefore | ⟨hnone, -⟩ := hsame.before
      · rw [hsame.node?_self, hbefore]
      · -- The new file would be found at both places.
        refine iff_of_false (fun hthere => hshares ⟨id, hfile, ?_⟩) (by simp [hnone])
        have hplace' := hsame.place_eq_ok_iff.2 hplace
        cases hthere.symm.trans hsame.node?_self
        exact file_eq_ok_iff.2 ⟨hnamed, hslash nofun, p, hplace', hsame.node?_self⟩
    · rw [hsame.node? p hp]
  simp only [FileSystem.lookup_eq_ok_iff, hsame.place_eq_ok_iff]
  constructor
  · rintro ⟨hnamed, ⟨p, hplace, hthere⟩, hslash⟩
    exact ⟨hnamed, ⟨p, hplace, (hstays p hplace hnamed hslash).1 hthere⟩, hslash⟩
  · rintro ⟨hnamed, ⟨p, hplace, hthere⟩, hslash⟩
    exact ⟨hnamed, ⟨p, hplace, (hstays p hplace hnamed hslash).2 hthere⟩, hslash⟩

/-- Loading depends on what is read at the place of the configuration only. -/
theorem load_congr
    (hlookup : ∀ node, after.lookup s.location = .ok node ↔ fs.lookup s.location = .ok node)
    (hread : ∀ content, after.read s.location = .ok content ↔ fs.read s.location = .ok content) :
    s.load after = s.load fs := by
  unfold load isThere holds
  cases hbefore : fs.lookup s.location with
  | error reason =>
    cases hafter : after.lookup s.location with
    | error => rfl
    | ok node => cases ((hlookup node).1 hafter).symm.trans hbefore
  | ok node =>
    have hafter := (hlookup node).2 hbefore
    have hsame : after.read s.location = fs.read s.location := by
      cases node with
      | file id =>
        have hfile : fs.file s.location = .ok id := file_eq_ok_iff_lookup.2 hbefore
        rw [read_of_file hfile]
        exact (hread _).2 (read_of_file hfile)
      | directory | link => simp only [FileSystem.read, FileSystem.file, hbefore, hafter]
    rw [hafter, hsame]

/-- Only a step back leads to something by a way that was missing. -/
theorem Unfinished.backName_mem (h : s.Unfinished c fs after)
    (hname : s.location.fileName? = some name) (hrooted : fs.Rooted)
    (huncovers : s.Uncovers fs after) : Location.backName ∈ s.location.names := by
  by_contra hback
  obtain ⟨hmissing, node, hlookup⟩ := huncovers
  obtain ⟨-, ⟨r, hplace, hnode⟩, -⟩ := FileSystem.lookup_eq_ok_iff.1 hlookup
  obtain ⟨n, made, hmade, hafter⟩ := h.exists_made
  rw [directories_eq hname, Location.take_waysFrom] at hmade
  have hplain : ∀ other ∈ s.location.steps.dropLast.tail, Plain other := by
    intro other hother
    have hsteps : other ∈ s.location.steps :=
      List.dropLast_subset _ (List.mem_of_mem_tail hother)
    refine ⟨?_, by simpa using (List.mem_filter.1 hsteps).2, ?_⟩
    · rintro rfl
      rw [List.tail_dropLast] at hother
      exact Location.rootName_not_mem_tail_steps s.path (List.dropLast_subset _ hother)
    · rintro rfl
      exact hback (List.mem_filter.1 hsteps).1
  have hempty {d : Place} (hd : made.Leads maxLinks made.working s.location.steps.dropLast d)
      (hdirectory : made.node? d = some .directory) (other : String) :
      made.node? (d ++ [other]) = none :=
    node?_of_missing hrooted hplain (fun d hd hnode => hmissing ⟨d, hd, hnode⟩) hmade hd hdirectory
  have hplace' : made.place s.location = .ok r := by
    obtain rfl | ⟨-, t, id, -, -, hsame⟩ := hafter
    · exact hplace
    · exact hsame.place_eq_ok_iff.1 hplace
  obtain ⟨d, hd, hdirectory, hr⟩ := exists_directory_of_place hname hplace'
  have hfree := hempty hd hdirectory
  obtain rfl := hr (by simp [hfree])
  obtain rfl | ⟨-, t, id, ht, -, hsame⟩ := hafter
  · cases (hfree name).symm.trans hnode
  · -- The temporary file is new there, but it has another name.
    obtain ⟨d', hd', -, ht'⟩ := exists_directory_of_place (fileName?_temporary hname) ht
    rw [steps_temporary hname, List.dropLast_concat] at hd'
    cases hd.unique hd'
    obtain rfl := ht' (by simp [hfree])
    have hne : d ++ [name] ≠ d ++ [temporaryName name] := by
      intro hsame
      have hnames := List.append_cancel_left hsame
      exact Location.stem_append_ne name (List.head_eq_of_cons_eq hnames).symm
    rw [hsame.node? _ hne, hfree] at hnode
    cases hnode

theorem Unfinished.spares (h : s.Unfinished c fs after)
    (hname : s.location.fileName? = some name) : s.Spares fs after := by
  have hlookup (hclosed : ¬ s.Uncovers fs after) (hshares : ¬ s.Shares after) (node : Node) :
      after.lookup s.location = .ok node ↔ fs.lookup s.location = .ok node := by
    by_cases hdirectory : fs.HasDirectory s.location
    · exact h.lookup_eq_ok_iff hname hdirectory hshares
    · refine iff_of_false (fun hfound => hclosed ⟨hdirectory, node, hfound⟩) fun hfound => ?_
      obtain ⟨-, ⟨p, hplace, -⟩, -⟩ := FileSystem.lookup_eq_ok_iff.1 hfound
      exact hdirectory (hasDirectory_of_place hname hplace)
  have hread (hclosed : ¬ s.Uncovers fs after) (hshares : ¬ s.Shares after) (content : List UInt8) :
      after.read s.location = .ok content ↔ fs.read s.location = .ok content := by
    simp only [read_eq_ok_iff, file_eq_ok_iff_lookup, hlookup hclosed hshares]
    refine exists_congr fun id => and_congr_right fun hfile => ?_
    rw [h.content_of_not_shares hshares
      (file_eq_ok_iff_lookup.2 ((hlookup hclosed hshares _).2 hfile))]
  constructor
  · exact fun p node => h.node?_of_some
  · exact h.content_eq_or
  · exact hread
  · exact fun hclosed hshares => load_congr (hlookup hclosed hshares) (hread hclosed hshares)
  · exact h.backName_mem hname
  · intro _ hshares id hfile
    obtain ⟨-, -, p, hplace, -⟩ := file_eq_ok_iff.1 hfile
    refine ⟨⟨p, hplace, ?_⟩, h.content_of_not_shares hshares hfile⟩
    exact (h.node_cases hshares (file_eq_ok_iff_lookup.1 hfile) hplace).resolve_right nofun

/-! ## No links -/

/-- No link comes between: none stands in the place of the temporary file or of the configuration,
and no file stands in both. -/
structure Unlinked (s : ConfigStore) (fs : FileSystem) : Prop where
  temporary : ¬ (s.ready fs).IsLink (temporary s.location)
  location : ¬ (s.ready fs).IsLink s.location
  apart : ¬ s.Shares (s.ready fs)

theorem file_of_onlyMakes (h : OnlyMakes fs fs') (hfile : fs.file l = .ok id) :
    fs'.file l = .ok id := by
  obtain ⟨hnamed, hslash, p, hplace, hnode⟩ := file_eq_ok_iff.1 hfile
  obtain ⟨hrefusal, hleads⟩ := place_eq_ok_iff.1 hplace
  have hnode' := h.node?_of_some hnode
  refine file_eq_ok_iff.2 ⟨hnamed, hslash, p, place_eq_ok_iff.2 ⟨hrefusal, ?_⟩, hnode'⟩
  rw [h.working]
  exact hleads.of_waysStay h.waysStay (by simp [hnode'])

/-- A location that leads to a file does not end in points. -/
theorem endsInPoints_of_file (hname : l.fileName? = some name) (hfile : fs.file l = .ok id) :
    endsInPoints l = false := by
  obtain ⟨hnamed, -, p, hplace, hnode⟩ := file_eq_ok_iff.1 hfile
  obtain ⟨-, hleads⟩ := place_eq_ok_iff.1 hplace
  obtain ⟨before, last, hnames⟩ := (List.eq_nil_or_concat l.names).resolve_left hnamed
  rw [List.concat_eq_append] at hnames
  rw [hnames] at hleads
  obtain ⟨d, e, hd, hdirectory, he⟩ := hleads.exists_before
  have hhere : last ≠ Location.hereName := by
    rintro rfl
    have hsame := hleads.unique (hd.concat hdirectory (enter_hereName d) (by simp [hdirectory]))
    rw [hsame, hdirectory] at hnode
    cases hnode
  have hback : last ≠ Location.backName := by
    rintro rfl
    have hsteps : l.steps = before.filter (· ≠ Location.hereName) ++ [Location.backName] := by
      simp [Location.steps, hnames, hhere]
    obtain ⟨hlast, -, -, hplain⟩ := steps_of_fileName? hname
    exact hplain (List.head_eq_of_cons_eq (List.append_inj' (hlast.symm.trans hsteps) rfl).2)
  simp [endsInPoints, hnames, hhere, hback]

/-- The temporary file does not become the configuration before the last step. -/
theorem Unfinished.not_shares (h : s.Unfinished c fs after)
    (hname : s.location.fileName? = some name) (hunlinked : s.Unlinked fs) : ¬ s.Shares after := by
  rintro ⟨id, htemporary, hlocation⟩
  obtain ⟨n, made, rfl, rfl | ⟨hready, t, other, ht, hfile, hsame⟩⟩ := h.exists_made
  · have hmakes : OnlyMakes (fs.makeEach (s.directories.take n)).2 (s.ready fs) :=
      onlyMakes_makeEach_take fs s.directories n
    exact hunlinked.apart
      ⟨id, file_of_onlyMakes hmakes htemporary, file_of_onlyMakes hmakes hlocation⟩
  · cases htemporary.symm.trans hfile
    rw [hready] at ht hsame
    obtain ⟨hnamed, hslash, r, hr, hnode⟩ := file_eq_ok_iff.1 hlocation
    replace hr := hsame.place_eq_ok_iff.1 hr
    by_cases hplaces : r = t
    · -- Without links the places are those of the names.
      subst hplaces
      obtain ⟨q, hq⟩ := exists_entry_of_place hnamed hr
      cases (place_of_not_isLink hunlinked.location hq).symm.trans hr
      obtain ⟨q', hq'⟩ := exists_entry_of_place (file_eq_ok_iff.1 htemporary).1 ht
      cases (place_of_not_isLink hunlinked.temporary hq').symm.trans ht
      exact entry_ne_of_temporary hname (endsInPoints_of_file hname hlocation) hq' hq
    · rw [hsame.node? r hplaces] at hnode
      obtain hbefore | ⟨-, hnew⟩ := hsame.before
      · obtain ⟨hnamed', hslash', -⟩ := file_eq_ok_iff.1 htemporary
        exact hunlinked.apart ⟨id, file_eq_ok_iff.2 ⟨hnamed', hslash', t, ht, hbefore⟩,
          file_eq_ok_iff.2 ⟨hnamed, hslash, r, hr, hnode⟩⟩
      · exact hnew r hnode

/-! ## All or nothing -/

/-- A refusal that a save does not notice lies in the last piece of the text. -/
theorem length_le_of_save {fault : Fault} (h : s.save faults c fs = (.ok (), after))
    (hfault : faults .writeTemporary = some fault) :
    (Text.Utf8.encode c.render).length ≤
      (fault.written / Faults.pieceSize + 1) * Faults.pieceSize := by
  obtain ⟨-, -, -, -, hnoticed, -⟩ :=
    outcome_replacing_eq_ok_iff.1 (outcome_replacing_of_save h)
  rw [Faults.noticed?, hfault, Option.filter_some] at hnoticed
  by_contra hlong
  rw [if_pos (decide_eq_true (Nat.lt_of_not_le hlong))] at hnoticed
  cases hnoticed

/-- All or nothing: after a save that succeeds the configuration is the new one, and after one that
fails it is read and loaded as before. -/
structure Atomic (s : ConfigStore) (faults : Faults) (c : Config) (fs : FileSystem) : Prop where
  done : ∀ after, s.save faults c fs = (.ok (), after) →
    after.read s.location = .ok (Text.Utf8.encode c.render) ∧ s.load after = .ok c
  failed : ∀ e after, s.save faults c fs = (.error e, after) →
    (∀ content, after.read s.location = .ok content ↔ fs.read s.location = .ok content) ∧
      s.load after = s.load fs

/-- A save that succeeds puts what it has written into the place of the configuration: all of the
new text, unless the system refused to write the last piece of it. A save that fails, or is cut off,
leaves alone what is there. So a save is atomic if it is not refused to write, no link comes
between, and no way is opened by making a directory. -/
theorem save_all_or_nothing (s : ConfigStore) (c : Config) (fs : FileSystem)
    (hname : s.location.fileName? ≠ none) :
    let text := Text.Utf8.encode c.render
    ((temporary s.location).steps ≠ s.location.steps ∧
      (endsInPoints s.location = false → ∀ (fs' : FileSystem) p,
        fs'.entry (temporary s.location) = .ok p → fs'.entry s.location ≠ .ok p)) ∧
    (∀ faults after, s.save faults c fs = (.ok (), after) →
      (∀ fault, faults .writeTemporary = some fault →
        text.length ≤ (fault.written / Faults.pieceSize + 1) * Faults.pieceSize) ∧
      (fs.Rooted ∨ ¬ (s.ready fs).IsLink (temporary s.location) → s.isThere after = true →
        after.read s.location = .ok (faults.kept text))) ∧
    (∀ faults e after, s.save faults c fs = (.error e, after) → s.Unfinished c fs after) ∧
    (∀ after, s.Unfinished c fs after → s.Spares fs after) ∧
    (s.Unlinked fs →
      (∀ faults after, s.save faults c fs = (.ok (), after) → s.isThere after = true) ∧
        ∀ after, s.Unfinished c fs after → ¬ s.Shares after) ∧
    (∀ faults, faults.kept text = text → s.Unlinked fs →
      fs.HasDirectory s.location ∨ fs.Rooted ∧ Location.backName ∉ s.location.names →
        s.Atomic faults c fs) := by
  intro text
  obtain ⟨name, hname⟩ := Option.ne_none_iff_exists'.1 hname
  refine ⟨⟨steps_temporary_ne hname, fun hpoints fs' p => entry_ne_of_temporary hname hpoints⟩,
    ?_, ?_, ?_, ?_, ?_⟩
  · exact fun faults after h => ⟨fun fault => length_le_of_save h, read_of_save h⟩
  · exact fun faults e after => unfinished_of_error
  · exact fun after h => h.spares hname
  · intro hunlinked
    refine ⟨fun faults after h => isThere_of_save h hunlinked.temporary hunlinked.location, ?_⟩
    exact fun after h => h.not_shares hname hunlinked
  · intro faults hwhole hunlinked hway
    constructor
    · intro after h
      have hthere := isThere_of_save h hunlinked.temporary hunlinked.location
      have hread := hwhole ▸ read_of_save h (.inr hunlinked.temporary) hthere
      exact ⟨hread, load_of_read hread (Config.parse?_render c)⟩
    · intro e after h
      have hleft := unfinished_of_error h
      have hspares := hleft.spares hname
      have hshares := hleft.not_shares hname hunlinked
      have hclosed : ¬ s.Uncovers fs after := by
        intro huncovers
        obtain hdirectory | ⟨hrooted, hback⟩ := hway
        · exact huncovers.1 hdirectory
        · exact hback (hspares.stepsBack hrooted huncovers)
      exact ⟨hspares.bytes hclosed hshares, hspares.load hclosed hshares⟩

theorem save_of_refused_rename {fault : Fault} {begun : FileSystem}
    (hfaults : ∀ step, step ≠ .rename → faults step = none) (hrename : faults .rename = some fault)
    (hparent : s.location.parent? = some directory)
    (hmade : fs.makeDirectory directory = (.ok (), made))
    (hbegun : made.createFile (temporary s.location) = .ok (id, begun)) :
    s.save faults c fs = (.error (.config .rename fault.detail),
      begun.append id (Text.Utf8.encode c.render)) := by
  have hwrite : faults .writeTemporary = none := hfaults _ nofun
  have hnoticed (length : Nat) : faults.noticed? length = none := by
    rw [Faults.noticed?, hwrite]
    rfl
  have hkept : faults.kept (Text.Utf8.encode c.render) = Text.Utf8.encode c.render :=
    Faults.kept_of_none hwrite
  show outcome (s.saving faults c) fs = _
  rw [saving_eq, hparent]
  refine outcome_bind_eq_error_iff.2 (.inr ⟨(), made, ?_, ?_⟩)
  · exact outcome_attempt_eq_ok_iff.2 ⟨hfaults _ nofun, hmade⟩
  refine outcome_bind_eq_error_iff.2 (.inr ⟨id, begun, ?_, ?_⟩)
  · exact outcome_attempt_eq_ok_iff.2 ⟨hfaults _ nofun, whole_eq_ok_iff.2 hbegun⟩
  refine outcome_bind_eq_error_iff.2 (.inr ⟨(), _, outcome_write_eq_ok_iff.2 ⟨hnoticed _, rfl⟩, ?_⟩)
  have hsync (written : FileSystem) : outcome
      (attempt faults .syncTemporary (whole fun fs => .ok ((), fs))) written = (.ok (), written) :=
    outcome_attempt_eq_ok_iff.2 ⟨hfaults _ nofun, rfl⟩
  refine outcome_bind_eq_error_iff.2 (.inr ⟨(), _, hsync _, ?_⟩)
  rw [outcome_attempt, hrename, hkept]

def oldText : String := "\x7b\"namespace\": \"old\"\x7d"

theorem load_holding : nearby.load (holding oldText) = .ok { ns := "old" } :=
  load_of_read (read_holding oldText) (by decide +kernel)

theorem unlinked_holding (text : String) : nearby.Unlinked (holding text) where
  temporary := by
    rw [ready_nearby]
    exact not_isLink_temporary_holding text
  location := by
    rw [ready_nearby]
    exact not_isLink_holding text
  apart := by
    rw [ready_nearby]
    rintro ⟨id, hfile, -⟩
    obtain ⟨-, -, p, hplace, hnode⟩ := file_eq_ok_iff.1 hfile
    cases (place_of_not_isLink (not_isLink_temporary_holding text)
      (entry_temporary_nearby _)).symm.trans hplace
    cases (node?_temporary_holding text).symm.trans hnode

/-- A system that does not let files be moved. -/
def immovable : Faults := fun step =>
  if step = .rename then some { detail := "Permission denied" } else none

theorem immovable_of_ne (h : step ≠ .rename) : immovable step = none :=
  if_neg h

/-- A save that may not move the new file leaves it beside the configuration, and that as it was. -/
theorem load_of_refused_rename :
    nearby.location.fileName? ≠ none ∧ ∃ after,
      nearby.save immovable { ns := "new" } (holding oldText) =
          (.error (.config .rename "Permission denied"), after) ∧
        after.read (temporary nearby.location) =
          .ok (Text.Utf8.encode ({ ns := "new" } : Config).render) ∧
        nearby.load (holding oldText) = .ok { ns := "old" } ∧
        nearby.load after = nearby.load (holding oldText) := by
  have hname : nearby.location.fileName? ≠ none := by decide +kernel
  have hplace : (holding oldText).place (temporary nearby.location) = .ok ["config.json.tmp"] :=
    place_of_not_isLink (not_isLink_temporary_holding oldText) (entry_temporary_nearby _)
  have hopens := Opens.added (node?_temporary_holding oldText)
  have hbegun : (holding oldText).createFile (temporary nearby.location) =
      .ok ((holding oldText).fresh, _) :=
    createFile_eq_ok_iff.2 ⟨by simp [temporary_nearby], by simp [temporary_nearby],
      ["config.json.tmp"], hplace, hopens⟩
  have hsave : nearby.save immovable { ns := "new" } (holding oldText) =
      (.error (.config .rename "Permission denied"), _) :=
    save_of_refused_rename (fun _ => immovable_of_ne) rfl parent?_nearby rfl hbegun
  have hsame := hopens.sameBut.append (Text.Utf8.encode ({ ns := "new" } : Config).render)
  have hread := read_of_file
    (hsame.file (by simp [temporary_nearby]) (by simp [temporary_nearby]) hplace)
  rw [content_append_self, hopens.content, List.nil_append] at hread
  obtain ⟨name, hname'⟩ := Option.ne_none_iff_exists'.1 hname
  have hdirectory : (holding oldText).HasDirectory nearby.location :=
    hasDirectory_of_place hname' (file_eq_ok_iff.1 (file_holding oldText)).2.2.choose_spec.1
  have hatomic := (save_all_or_nothing nearby { ns := "new" } (holding oldText) hname).2.2.2.2.2
    immovable (Faults.kept_of_none rfl) (unlinked_holding oldText) (.inl hdirectory)
  exact ⟨hname, _, hsave, hread, load_holding, (hatomic.failed _ _ hsave).2⟩

/-! ## What comes of faults, links and steps back -/

/-- A disk that is full after three bytes. -/
def diskFull : Faults := fun step =>
  if step = .writeTemporary then some { detail := "No space left on device", written := 3 }
  else none

/-- A save on a full disk succeeds, and the configuration is lost. -/
theorem load_of_refused_write :
    ∃ after, nearby.save diskFull { ns := "new" } (holding oldText) = (.ok (), after) ∧
      after.read nearby.location = .ok [0x7b, 0x0a, 0x20] ∧
      nearby.load after = .error (.config .parse "unusable configuration") := by
  have hfaults (step : ConfigStep) (hstep : step ≠ .writeTemporary) : diskFull step = none :=
    if_neg hstep
  obtain ⟨after, hsave⟩ :=
    exists_save_nearby (c := { ns := "new" }) oldText hfaults (by decide +kernel)
  have hunlinked := unlinked_holding oldText
  have hthere := isThere_of_save hsave hunlinked.temporary hunlinked.location
  have hread : after.read nearby.location = .ok [0x7b, 0x0a, 0x20] := by
    rw [read_of_save hsave (.inr hunlinked.temporary) hthere]
    exact congrArg _ (by decide +kernel)
  have hdecode : Text.Utf8.decode? [0x7b, 0x0a, 0x20] = some "\x7b\n " := by decide +kernel
  have hparse : Config.parse? "\x7b\n " = none := by decide +kernel
  refine ⟨after, hsave, hread, ?_⟩
  simp [load, hthere, hread, hdecode, hparse]

/-- A link in the place of the temporary file that leads to the configuration. -/
def linked : FileSystem :=
  (holding oldText).put ["config.json.tmp"] (.link { names := ["config.json"] })

/-- A save through a link that fails has replaced the configuration. -/
theorem load_of_linked_save :
    ∃ after, nearby.save immovable { ns := "new" } linked =
        (.error (.config .rename "Permission denied"), after) ∧
      nearby.load linked = .ok { ns := "old" } ∧ nearby.load after = .ok { ns := "new" } := by
  have hlink : linked.node? ["config.json.tmp"] = some (.link { names := ["config.json"] }) :=
    node?_put_self (by decide)
  have hnode : linked.node? ["config.json"] = some (.file 0) :=
    (node?_put_of_ne (by decide)).trans (node?_holding oldText)
  have hlocation : linked.place nearby.location = .ok ["config.json"] :=
    place_of_entry (entry_nearby linked)
      (show ∀ target, linked.node? ["config.json"] ≠ some (.link target) by simp [hnode])
  have htemporary : linked.place (temporary nearby.location) = .ok ["config.json"] := by
    refine place_eq_ok_iff.2 ⟨(entry_eq_ok_iff.1 (entry_temporary_nearby linked)).1, ?_⟩
    rw [temporary_nearby]
    refine .link (node?_working _) rfl hlink (.step (node?_working _) rfl ?_ .here)
    show ∀ target, linked.node? ["config.json"] ≠ some (.link target)
    simp [hnode]
  have hopens := Opens.emptied hnode
  have hbegun : linked.createFile (temporary nearby.location) = .ok (0, linked.fill 0 []) :=
    createFile_eq_ok_iff.2 ⟨by simp [temporary_nearby], by simp [temporary_nearby],
      ["config.json"], htemporary, hopens⟩
  have hsave := save_of_refused_rename (c := { ns := "new" }) (fun _ => immovable_of_ne) rfl
    parent?_nearby rfl hbegun
  have hfile : linked.file nearby.location = .ok 0 :=
    file_eq_ok_iff.2 ⟨by simp [location_nearby], by simp [location_nearby], _, hlocation, hnode⟩
  have hread : linked.read nearby.location = .ok (Text.Utf8.encode oldText) := by
    rw [read_of_file hfile]
    exact congrArg _ content_addFile_self
  have hsame := hopens.sameBut.append (Text.Utf8.encode ({ ns := "new" } : Config).render)
  have hread' := read_of_file
    (hsame.file (by simp [location_nearby]) (by simp [location_nearby]) hlocation)
  rw [content_append_self, hopens.content, List.nil_append] at hread'
  exact ⟨_, hsave, load_of_read hread (by decide +kernel),
    load_of_read hread' (Config.parse?_render _)⟩

/-- The same file by a way that steps back out of a directory. -/
def roundabout : ConfigStore := ⟨"d/../config.json"⟩

/-- A working directory with something in the place of the configuration, and a directory in the
place of the temporary file. -/
def obstructed (node : Node) : FileSystem :=
  ((put {} ["config.json"] node).put ["config.json.tmp"] .directory).fill 0
    (Text.Utf8.encode oldText)

/-- The same with one more directory. -/
def opened (node : Node) : FileSystem :=
  (obstructed node).put ["d"] .directory

theorem location_roundabout : roundabout.location = { names := ["d", "..", "config.json"] } := by
  decide +kernel

theorem temporary_roundabout :
    temporary roundabout.location = { names := ["d", "..", "config.json.tmp"] } := by
  decide +kernel

theorem parent?_roundabout : roundabout.location.parent? = some { names := ["d", ".."] } := by
  rw [location_roundabout]
  decide

theorem place_roundabout (fs : FileSystem) :
    fs.place roundabout.location = fs.follow maxLinks fs.working ["d", "..", "config.json"] := by
  rw [place, location_roundabout, refusal?_eq_none_iff.2 ⟨by decide, by decide +kernel⟩]

theorem place_temporary_roundabout (fs : FileSystem) :
    fs.place (temporary roundabout.location) =
      fs.follow maxLinks fs.working ["d", "..", "config.json.tmp"] := by
  rw [place, temporary_roundabout, refusal?_eq_none_iff.2 ⟨by decide, by decide +kernel⟩]

theorem makeDirectory_obstructed (node : Node) :
    (obstructed node).makeDirectory { names := ["d", ".."] } = (.ok (), opened node) := by
  have hrefusal : refusal? { names := ["d", ".."] } = none :=
    refusal?_eq_none_iff.2 ⟨by decide, by decide +kernel⟩
  have hfirst : (obstructed node).makeOne { names := ["d"] } = .ok (opened node) := by
    rw [makeOne, entry, refusal?_eq_none_iff.2 ⟨by decide, by decide +kernel⟩]
    rfl
  have hsecond : (opened node).makeOne { names := ["d", ".."] } = .ok (opened node) := by
    rw [makeOne, entry, lookup, place, hrefusal]
    rfl
  have hways : Location.ways { names := ["d", ".."] } = [⟨["d"], false⟩, ⟨["d", ".."], false⟩] := by
    decide
  have hboth : (obstructed node).makeEach [⟨["d"], false⟩, ⟨["d", ".."], false⟩] =
      (.ok (), opened node) := by
    simp only [makeEach, hfirst, hsecond]
  rw [makeDirectory, hrefusal, hways, hboth]
  rfl

/-- The directory is made, and the temporary file cannot be. -/
theorem save_obstructed (node : Node) :
    roundabout.save Faults.none c (obstructed node) =
      (.error (.config .createTemporary isADirectory), opened node) := by
  have hrefused : (opened node).createFile (temporary roundabout.location) =
      .error isADirectory := by
    rw [createFile, place_temporary_roundabout, temporary_roundabout]
    rfl
  show outcome (roundabout.saving Faults.none c) (obstructed node) = _
  rw [saving_eq, parent?_roundabout]
  refine outcome_bind_eq_error_iff.2 (.inr ⟨(), opened node, ?_, ?_⟩)
  · exact outcome_attempt_eq_ok_iff.2 ⟨rfl, makeDirectory_obstructed node⟩
  · refine outcome_bind_eq_error_iff.2 (.inl ?_)
    simp [outcome_attempt, Faults.none, whole, hrefused, Except.mapError]

theorem load_obstructed (node : Node) : roundabout.load (obstructed node) = .ok {} := by
  have hmissing : (obstructed node).lookup roundabout.location = .error absent := by
    rw [lookup, place_roundabout, location_roundabout]
    rfl
  simp [load, isThere, holds, hmissing]

/-- Where a directory is missing, making it can open the way to what stands behind a step back. So
a save that fails can change what is read and loaded, though nothing that was there has changed. -/
theorem load_of_obstructed_save :
    let failed : Except Failure Unit := .error (.config .createTemporary isADirectory)
    (roundabout.save Faults.none {} (obstructed .directory) = (failed, opened .directory) ∧
        roundabout.load (obstructed .directory) = .ok {} ∧
        roundabout.load (opened .directory) = .error (.config .read isADirectory)) ∧
      roundabout.save Faults.none {} (obstructed (.file 0)) = (failed, opened (.file 0)) ∧
        roundabout.load (obstructed (.file 0)) = .ok {} ∧
        roundabout.load (opened (.file 0)) = .ok { ns := "old" } := by
  have hthere : (opened .directory).lookup roundabout.location = .ok .directory := by
    rw [lookup, place_roundabout, location_roundabout]
    rfl
  have hfile : (opened (.file 0)).file roundabout.location = .ok 0 := by
    rw [FileSystem.file, lookup, place_roundabout, location_roundabout]
    rfl
  have hread : (opened (.file 0)).read roundabout.location = .ok (Text.Utf8.encode oldText) := by
    rw [read_of_file hfile]
    exact congrArg _ content_fill_self
  refine ⟨⟨save_obstructed _, load_obstructed _, ?_⟩, save_obstructed _, load_obstructed _, ?_⟩
  · simp [load, isThere, holds, FileSystem.read, FileSystem.file, hthere]
  · exact load_of_read hread (by decide +kernel)

/-- A save need not be atomic: not on a full disk, not where the temporary file is a link to the
configuration, and not where a directory is made that the location steps back out of. -/
theorem save_not_atomic :
    ¬ nearby.Atomic diskFull { ns := "new" } (holding oldText) ∧
      ¬ nearby.Atomic immovable { ns := "new" } linked ∧
      ¬ roundabout.Atomic Faults.none {} (obstructed .directory) := by
  refine ⟨fun h => ?_, fun h => ?_, fun h => ?_⟩
  · obtain ⟨after, hsave, -, hload⟩ := load_of_refused_write
    cases (h.done after hsave).2.symm.trans hload
  · obtain ⟨after, hsave, hbefore, hload⟩ := load_of_linked_save
    have hsame := (h.failed _ after hsave).2
    rw [hload, hbefore] at hsame
    exact absurd (congrArg Config.ns (Except.ok.inj hsame)) (by decide)
  · obtain ⟨⟨hsave, hbefore, hload⟩, -⟩ := load_of_obstructed_save
    have hsame := (h.failed _ _ hsave).2
    rw [hload, hbefore] at hsame
    cases hsame

end ConfigStore

end PodTunnels
