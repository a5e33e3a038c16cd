import PodTunnels.Proofs.Numeral
import PodTunnels.Selection
import Mathlib.Data.List.DropRight

/-!
# Chosen candidates

In the start dialog a selection is made of the chosen candidates and two texts. The local ports are
written between commas, where blank segments do not count (`segments`), and trimming twice is
trimming once (`trimChars_trimChars`), so they are read as written (`parseLocalPorts_eq_ok_iff`).
A selection is made just when nothing is missing and the numbers of ports agree, and then every
candidate has its tunnel, in order (`ofCandidates_eq_ok_iff`, `selection_of_candidates`).
-/

namespace PodTunnels

open Text

/-! ## Segments -/

theorem Text.dropWhile_trimChars (cs : List Char) :
    (trimChars cs).dropWhile isBlank = trimChars cs := by
  have hstart : trimChars cs <+: cs.dropWhile isBlank := List.rdropWhile_prefix isBlank _
  refine List.dropWhile_eq_self_iff.2 ?_
  intro hsome
  rw [hstart.getElem hsome]
  exact List.dropWhile_get_zero_not isBlank cs _

theorem Text.trimChars_trimChars (cs : List Char) : trimChars (trimChars cs) = trimChars cs := by
  have hagain : trimChars (trimChars cs) = ((trimChars cs).dropWhile isBlank).rdropWhile isBlank := rfl
  rw [hagain, dropWhile_trimChars]
  exact List.rdropWhile_idempotent isBlank _

/-- The segments of a list that is written between commas, the blank ones left out. -/
def segments (s : String) : List (List Char) :=
  (s.toList.splitOn ',').filter fun segment => trimChars segment ≠ []

theorem Text.isEmpty_ofList (cs : List Char) : (String.ofList cs).isEmpty = decide (cs = []) := by
  rw [Bool.eq_iff_iff, String.isEmpty_iff, decide_eq_true_iff, ← String.toList_inj,
    String.toList_ofList, String.toList_empty]

/-- Local ports are read from a text when each of its segments writes one. -/
theorem parseLocalPorts_eq_ok_iff {s : String} {locals : List UInt16} :
    parseLocalPorts s = .ok locals ↔
      List.Forall₂ (fun segment p => WritesPort (trimChars segment) p) (segments s) locals := by
  have hitems : ((splitAll ',' s).map trim).filter (fun item => !item.isEmpty) =
      (segments s).map fun segment => String.ofList (trimChars segment) := by
    have htrim (segment : List Char) :
        trim (String.ofList segment) = String.ofList (trimChars segment) := by
      rw [trim, String.toList_ofList]
    rw [splitAll, cutAll_eq_splitOn, List.map_map, List.filter_map, segments]
    simp [Function.comp_def, htrim, isEmpty_ofList]
  rw [parseLocalPorts, hitems, mapM_eq_ok_iff, List.forall₂_map_left_iff]
  simp only [parsePort_eq_ok_iff, String.toList_ofList, trimChars_trimChars]

/-! ## Selections -/

namespace Selection

variable {chosen : List Candidate} {localPorts address : String} {locals : List UInt16}
  {s : Selection}

/-- The local ports for chosen candidates: those of the text, or their own if the text is blank. -/
def LocalPorts (chosen : List Candidate) (localPorts : String) (locals : List UInt16) : Prop :=
  if trimChars localPorts.toList = [] then locals = chosen.map Candidate.port
  else List.Forall₂ (fun segment p => WritesPort (trimChars segment) p) (segments localPorts) locals

/-- The reader of the local ports. -/
def readLocalPorts (chosen : List Candidate) (localPorts : String) : Except Failure (List UInt16) :=
  if (trim localPorts).isEmpty then .ok (chosen.map Candidate.port) else parseLocalPorts localPorts

theorem readLocalPorts_eq_ok_iff :
    readLocalPorts chosen localPorts = .ok locals ↔ LocalPorts chosen localPorts locals := by
  rw [readLocalPorts, LocalPorts, trim, isEmpty_ofList]
  by_cases hblank : trimChars localPorts.toList = []
  · simp [hblank, eq_comm]
  · simp [hblank, parseLocalPorts_eq_ok_iff]

/-- The faults in the order in which they are looked for. -/
theorem ofCandidates_cons (first : Candidate) (rest : List Candidate) :
    ofCandidates (first :: rest) localPorts address =
      if ∃ c ∈ first :: rest, c.container ≠ first.container then
        .error (.invalidPorts .severalContainers)
      else if trimChars address.toList = [] then .error (.invalidPorts .missingAddress)
      else readLocalPorts (first :: rest) localPorts >>= fun locals =>
        if locals.length ≠ (first :: rest).length then
          .error (.invalidPorts (.miscounted (first :: rest).length locals.length))
        else
          .ok ⟨first.container, ((first :: rest).zip locals).map fun (c, near) =>
            { address := trim address, localPort := near, containerPort := c.port }⟩ := by
  have hmany : (first :: rest).any (fun c => decide (c.container ≠ first.container)) = true ↔
      ∃ c ∈ first :: rest, c.container ≠ first.container := by
    simp only [List.any_eq_true, decide_eq_true_eq]
  have haddress : (trim address).isEmpty = true ↔ trimChars address.toList = [] := by
    rw [trim, isEmpty_ofList, decide_eq_true_eq]
  simp only [ofCandidates, hmany, haddress, readLocalPorts]
  split
  · rfl
  · split
    · rfl
    · split <;> rfl

/-- What it takes to make a selection of chosen candidates. -/
theorem ofCandidates_eq_ok_iff :
    ofCandidates chosen localPorts address = .ok s ↔
      chosen ≠ [] ∧ (∀ c ∈ chosen, c.container = s.container) ∧ trimChars address.toList ≠ [] ∧
        ∃ locals, LocalPorts chosen localPorts locals ∧ locals.length = chosen.length ∧
          s.tunnels = (chosen.zip locals).map fun (c, near) =>
            { address := trim address, localPort := near, containerPort := c.port } := by
  cases chosen with
  | nil => simp [ofCandidates]
  | cons first rest =>
    rw [ofCandidates_cons]
    split
    · rename_i hmany
      obtain ⟨c, hc, hother⟩ := hmany
      refine iff_of_false nofun ?_
      rintro ⟨-, hone, -⟩
      exact hother ((hone c hc).trans (hone first List.mem_cons_self).symm)
    · rename_i hone
      have hsame : ∀ c ∈ first :: rest, c.container = first.container := by simpa using hone
      split
      · rename_i haddress
        exact iff_of_false nofun fun h => h.2.2.1 haddress
      · rename_i haddress
        simp only [bind_eq_ok_iff, readLocalPorts_eq_ok_iff]
        constructor
        · rintro ⟨locals, hlocals, hmade⟩
          split at hmade
          · cases hmade
          · rename_i hcount
            cases hmade
            exact ⟨List.cons_ne_nil _ _, hsame, haddress, locals, hlocals, not_not.1 hcount, rfl⟩
        · rintro ⟨-, hcontainer, -, locals, hlocals, hcount, htunnels⟩
          refine ⟨locals, hlocals, ?_⟩
          rw [if_neg (not_not.2 hcount), hcontainer first List.mem_cons_self, ← htunnels]

/-- Chosen candidates and two texts are in order: something is chosen, all in one container, the
address is not blank, and the local ports are either left out or as many as the candidates. -/
structure InOrder (chosen : List Candidate) (localPorts address : String) : Prop where
  nonempty : chosen ≠ []
  container : ∀ c ∈ chosen, ∀ c' ∈ chosen, c.container = c'.container
  address : trimChars address.toList ≠ []
  localPorts : trimChars localPorts.toList = [] ∨
    (∀ segment ∈ segments localPorts, ∃ p, WritesPort (trimChars segment) p) ∧
      (segments localPorts).length = chosen.length

/-- The order of the candidates is that of the tunnels, whose local ports are the segments of the
text in order, or the container ports if the text is blank. -/
structure Forwards (s : Selection) (chosen : List Candidate) (localPorts address : String) :
    Prop where
  container : ∀ c ∈ chosen, c.container = s.container
  length : s.tunnels.length = chosen.length
  tunnel : ∀ (i : Nat) (c : Candidate), chosen[i]? = some c → ∃ near : UInt16,
    s.tunnels[i]? = some ⟨trim address, near, c.port, .tcp⟩ ∧
      if trimChars localPorts.toList = [] then near = c.port
      else ∃ segment, (segments localPorts)[i]? = some segment ∧ WritesPort (trimChars segment) near

theorem exists_localPorts_iff (chosen : List Candidate) (localPorts : String) :
    (∃ locals, LocalPorts chosen localPorts locals ∧ locals.length = chosen.length) ↔
      trimChars localPorts.toList = [] ∨
        (∀ segment ∈ segments localPorts, ∃ p, WritesPort (trimChars segment) p) ∧
          (segments localPorts).length = chosen.length := by
  unfold LocalPorts
  by_cases hblank : trimChars localPorts.toList = []
  · simp [hblank]
  · simp only [hblank, ↓reduceIte, false_or, ← exists_forall₂_iff, ← exists_and_right]
    exact exists_congr fun locals => and_congr_right fun h => by rw [h.length_eq]

/-- What the i-th local port is. -/
theorem LocalPorts.getElem? (h : LocalPorts chosen localPorts locals) {i : Nat} {c : Candidate}
    {near : UInt16} (hc : chosen[i]? = some c) (hnear : locals[i]? = some near) :
    if trimChars localPorts.toList = [] then near = c.port
    else ∃ segment, (segments localPorts)[i]? = some segment ∧
      WritesPort (trimChars segment) near := by
  unfold LocalPorts at h
  by_cases hblank : trimChars localPorts.toList = []
  · rw [if_pos hblank] at h ⊢
    subst h
    rw [List.getElem?_map, hc] at hnear
    exact (Option.some.inj hnear).symm
  · rw [if_neg hblank] at h ⊢
    obtain ⟨hlength, hall⟩ := List.forall₂_iff_get.1 h
    obtain ⟨hi, rfl⟩ := List.getElem?_eq_some_iff.1 hnear
    exact ⟨_, List.getElem?_eq_getElem (hlength ▸ hi), hall i (hlength ▸ hi) hi⟩

/-- When chosen candidates make a selection, and which one. -/
theorem selection_of_candidates (chosen : List Candidate) (localPorts address : String) :
    ((∃ s, ofCandidates chosen localPorts address = .ok s) ↔ InOrder chosen localPorts address) ∧
      ∀ s, ofCandidates chosen localPorts address = .ok s → s.Forwards chosen localPorts address := by
  refine ⟨⟨?_, ?_⟩, ?_⟩
  · rintro ⟨s, hmade⟩
    obtain ⟨hsome, hcontainer, haddress, locals, hlocals, hcount, -⟩ := ofCandidates_eq_ok_iff.1 hmade
    constructor
    · exact hsome
    · exact fun c hc c' hc' => (hcontainer c hc).trans (hcontainer c' hc').symm
    · exact haddress
    · exact (exists_localPorts_iff chosen localPorts).1 ⟨locals, hlocals, hcount⟩
  · rintro ⟨hsome, hcontainer, haddress, hports⟩
    obtain ⟨first, hfirst⟩ := List.exists_mem_of_ne_nil _ hsome
    obtain ⟨locals, hlocals, hcount⟩ := (exists_localPorts_iff chosen localPorts).2 hports
    exact ⟨⟨first.container, _⟩, ofCandidates_eq_ok_iff.2 ⟨hsome,
      fun c hc => hcontainer c hc first hfirst, haddress, locals, hlocals, hcount, rfl⟩⟩
  · intro s hmade
    obtain ⟨-, hcontainer, -, locals, hlocals, hcount, htunnels⟩ := ofCandidates_eq_ok_iff.1 hmade
    constructor
    · exact hcontainer
    · rw [htunnels, List.length_map, List.length_zip, hcount, Nat.min_self]
    · intro i c hc
      have hi : i < locals.length := hcount ▸ (List.getElem?_eq_some_iff.1 hc).1
      have hnear : locals[i]? = some locals[i] := List.getElem?_eq_getElem hi
      refine ⟨locals[i], ?_, hlocals.getElem? hc hnear⟩
      have hpair : (chosen.zip locals)[i]? = some (c, locals[i]) :=
        List.getElem?_zip_eq_some.2 ⟨hc, hnear⟩
      rw [htunnels, List.getElem?_map, hpair]
      rfl

/-- Two candidates of a container, and a text with two local ports among blank segments. -/
theorem two_candidates_forwarded :
    InOrder [⟨"web", none, 8080⟩, ⟨"web", none, 9000⟩] " 80,, +09000 ," " localhost" ∧
      Forwards ⟨"web", [⟨"localhost", 80, 8080, .tcp⟩, ⟨"localhost", 9000, 9000, .tcp⟩]⟩
        [⟨"web", none, 8080⟩, ⟨"web", none, 9000⟩] " 80,, +09000 ," " localhost" := by
  have hmade : ofCandidates [⟨"web", none, 8080⟩, ⟨"web", none, 9000⟩] " 80,, +09000 ,"
      " localhost" = .ok ⟨"web", [⟨"localhost", 80, 8080, .tcp⟩, ⟨"localhost", 9000, 9000, .tcp⟩]⟩ := by
    decide +kernel
  obtain ⟨hwhen, hforwards⟩ := selection_of_candidates _ _ _
  exact ⟨hwhen.1 ⟨_, hmade⟩, hforwards _ hmade⟩

end Selection

end PodTunnels
