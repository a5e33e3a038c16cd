import PodTunnels.Proofs.Declared

/-!
# The form of the start dialog

The same keys mean different things in the fields of the form, and its cursor and its flags are
edited independently. Whatever is typed, the form stays one of its dialog: it has one flag for each
candidate, and the cursor stands at a candidate (`Form.Fits`). So what is attempted when the user
confirms is determined by the flags and the cursor alone (`Form.Attempts`), and there is always
something to attempt. An attempt that fails leaves everything as it was beside its error
(`form_after_keys`).
-/

namespace PodTunnels

/-! ## Selections that fail -/

theorem exists_error_of_mapM {ε α β : Type} {f : α → Except ε β} {xs : List α} {e : ε}
    (h : xs.mapM f = .error e) : ∃ x ∈ xs, f x = .error e := by
  induction xs with
  | nil => cases h
  | cons x xs ih =>
    rw [List.mapM_cons] at h
    cases hx : f x with
    | error e' =>
      rw [hx] at h
      cases h
      exact ⟨x, List.mem_cons_self, hx⟩
    | ok y =>
      cases hxs : xs.mapM f with
      | error e' =>
        rw [hx, hxs] at h
        cases h
        obtain ⟨x', hmem, hfails⟩ := ih hxs
        exact ⟨x', List.mem_cons_of_mem x hmem, hfails⟩
      | ok ys =>
        rw [hx, hxs] at h
        cases h

namespace Selection

theorem error_of_parseLocalPorts {s : String} {e : Failure} (h : parseLocalPorts s = .error e) :
    ∃ text, e = .invalidPorts (.notAPort text) := by
  unfold parseLocalPorts at h
  obtain ⟨item, -, hitem⟩ := exists_error_of_mapM h
  unfold parsePort at hitem
  split at hitem
  · split at hitem
    · cases hitem
      exact ⟨item, rfl⟩
    · cases hitem
  · cases hitem
    exact ⟨item, rfl⟩

/-- Where something is chosen, that nothing is chosen is not what goes wrong. -/
theorem ofCandidates_ne_noneSelected {chosen : List Candidate} (hsome : chosen ≠ [])
    (localPorts address : String) :
    ofCandidates chosen localPorts address ≠ .error (.invalidPorts .noneSelected) := by
  obtain ⟨first, rest, rfl⟩ := List.exists_cons_of_ne_nil hsome
  rw [ofCandidates_cons]
  split
  · nofun
  · split
    · nofun
    · cases hread : readLocalPorts (first :: rest) localPorts with
      | ok locals =>
        simp only [bind, Except.bind]
        split <;> nofun
      | error e =>
        rintro ⟨⟩
        unfold readLocalPorts at hread
        split at hread
        · cases hread
        · obtain ⟨text, htext⟩ := error_of_parseLocalPorts hread
          cases htext

end Selection

namespace Console

namespace Form

variable {f : Form} {number : Nat} {d : SelectionDialog}

/-! ## The form on the screen -/

/-- A form is one of a dialog: it offers the candidates of the dialog, with a flag for each, and the
cursor stands at one of them. -/
structure Fits (f : Form) (number : Nat) (d : SelectionDialog) : Prop where
  dialog : f.dialog = number
  candidates : f.candidates = d.candidates
  flags : f.checked.length = d.candidates.length
  cursor : f.cursor < d.candidates.length

theorem fits_ofDialog (number : Nat) (hsome : d.candidates ≠ []) :
    (Form.ofDialog number d).Fits number d where
  dialog := rfl
  candidates := rfl
  flags := List.length_map _
  cursor := List.length_pos_iff.2 hsome

theorem Fits.edit (h : f.Fits number d) (change : String → String) :
    (f.edit change).Fits number d := by
  unfold Form.edit
  split
  · exact h
  · exact ⟨h.dialog, h.candidates, h.flags, h.cursor⟩
  · exact ⟨h.dialog, h.candidates, h.flags, h.cursor⟩

theorem Fits.down (h : f.Fits number d) : f.down.Fits number d := by
  unfold Form.down
  split
  · rename_i hbelow
    exact ⟨h.dialog, h.candidates, h.flags, h.flags ▸ hbelow⟩
  · exact h

theorem Fits.up (h : f.Fits number d) : f.up.Fits number d :=
  ⟨h.dialog, h.candidates, h.flags, lt_of_le_of_lt (Nat.sub_le ..) h.cursor⟩

theorem Fits.toggle (h : f.Fits number d) : f.toggle.Fits number d :=
  ⟨h.dialog, h.candidates, (List.length_modify ..).trans h.flags, h.cursor⟩

theorem Fits.press (h : f.Fits number d) (code : KeyCode) : (f.press code).Fits number d := by
  unfold Form.press
  split
  · exact ⟨h.dialog, h.candidates, h.flags, h.cursor⟩
  · split
    · exact h.up
    · exact h
  · split
    · exact h.down
    · exact h
  · exact h.edit _
  · split
    · exact h.toggle
    · exact h.edit _
  · exact h.edit _
  · exact h

/-! ## What is attempted -/

/-- The candidates that a confirmation is for: those with a flag in the order of the list, or the
one under the cursor when there are no flags. -/
inductive Attempts (f : Form) : List Candidate → Prop
  | checked {places : List Nat} {chosen : List Candidate} (hsome : places ≠ [])
      (hordered : places.Pairwise (· < ·))
      (hplaces : ∀ i : Nat, i ∈ places ↔ f.checked[i]? = some true)
      (hchosen : List.Forall₂ (fun i c => f.candidates[i]? = some c) places chosen) :
      Attempts f chosen
  | highlighted {c : Candidate} (hnone : ∀ i : Nat, f.checked[i]? ≠ some true)
      (hcursor : f.candidates[f.cursor]? = some c) : Attempts f [c]

theorem Attempts.ne_nil {chosen : List Candidate} (h : f.Attempts chosen) : chosen ≠ [] := by
  cases h with
  | checked hsome _ _ hchosen =>
    rintro rfl
    exact hsome (List.forall₂_nil_right_iff.1 hchosen)
  | highlighted => exact List.cons_ne_nil _ _

/-- The items with a flag stand at the places of the flags. -/
theorem exists_places {α : Type} {items : List α} {flags : List Bool}
    (h : flags.length = items.length) :
    ∃ places : List Nat, places.Pairwise (· < ·) ∧ (∀ i, i ∈ places ↔ flags[i]? = some true) ∧
      List.Forall₂ (fun i a => items[i]? = some a) places
        (((items.zip flags).filter Prod.snd).map Prod.fst) := by
  induction items generalizing flags with
  | nil =>
    cases List.length_eq_zero_iff.1 h
    exact ⟨[], .nil, by simp, .nil⟩
  | cons a items ih =>
    obtain ⟨flag, flags, rfl⟩ := List.exists_cons_of_length_eq_add_one h
    obtain ⟨places, hordered, hplaces, hitems⟩ := ih (Nat.succ.inj h)
    have hlater : (places.map Nat.succ).Pairwise (· < ·) :=
      List.pairwise_map.2 (hordered.imp Nat.succ_lt_succ)
    have hshifted : List.Forall₂ (fun i b => (a :: items)[i]? = some b) (places.map Nat.succ)
        (((items.zip flags).filter Prod.snd).map Prod.fst) := by
      rw [List.forall₂_map_left_iff]
      exact hitems
    cases flag with
    | false =>
      refine ⟨places.map Nat.succ, hlater, ?_, by simpa using hshifted⟩
      intro i
      cases i <;> simp [hplaces]
    | true =>
      refine ⟨0 :: places.map Nat.succ, List.pairwise_cons.2 ⟨by simp, hlater⟩, ?_, ?_⟩
      · intro i
        cases i <;> simp [hplaces]
      · simpa using hshifted

theorem Fits.attempts (h : f.Fits number d) : f.Attempts f.attempted := by
  obtain ⟨places, hordered, hplaces, hchosen⟩ :=
    exists_places (h.flags.trans (congrArg List.length h.candidates.symm))
  change List.Forall₂ _ places f.chosen at hchosen
  unfold attempted
  split
  · rename_i hnone
    have hempty : places = [] := List.forall₂_nil_right_iff.1 (hnone ▸ hchosen)
    have hcursor : f.cursor < f.candidates.length := h.candidates ▸ h.cursor
    rw [List.getElem?_eq_getElem hcursor]
    refine .highlighted (fun i hi => ?_) (List.getElem?_eq_getElem hcursor)
    exact List.not_mem_nil (hempty ▸ (hplaces i).2 hi)
  · rename_i hsome
    refine .checked (fun hempty => ?_) hordered hplaces hchosen
    exact hsome (List.forall₂_nil_left_iff.1 (hempty ▸ hchosen))

end Form

namespace State

variable {c : State} {number : Nat} {d : SelectionDialog}

/-- If a start dialog is on the screen, its form is one of a certain dialog. -/
def ShowsFormOf (c : State) (number : Nat) (d : SelectionDialog) : Prop :=
  ∀ f, c.modal = some (.selection f) → f.Fits number d

theorem ShowsFormOf.handle (h : c.ShowsFormOf number d) (registry : Registry) (e : Event) :
    (c.handle registry e).console.ShowsFormOf number d := by
  by_cases hopen : ∃ f, c.modal = some (.selection f)
  · obtain ⟨f, hmodal⟩ := hopen
    have hfits := h f hmodal
    cases e with
    | press key =>
      simp only [State.handle, State.press, hmodal]
      split
      · exact h
      · unfold pressSelection
        split
        · rintro f' ⟨⟩
        · split
          · rintro f' ⟨⟩
          · rintro f' ⟨⟩
            exact ⟨hfits.dialog, hfits.candidates, hfits.flags, hfits.cursor⟩
        · rintro f' ⟨⟩
          exact hfits.press _
    | release | resize | other => exact h
  · have hreacts := c.reacts registry e
    generalize c.handle registry e = r at hreacts
    cases hreacts with
    | kept hsame => exact fun f hmodal => h f (hsame.2 ▸ hmodal)
    | edited _ hbefore => exact absurd ⟨_, hbefore⟩ hopen
    | triggered => exact h
    | confirmedSelection | cancelledSelection | confirmedDeletion | cancelledDeletion =>
      rintro f ⟨⟩

theorem ShowsFormOf.after (h : c.ShowsFormOf number d) (events : List (Registry × Event)) :
    (c.after events).ShowsFormOf number d :=
  List.foldlRecOn (motive := fun c => ShowsFormOf c number d) events _ h
    fun _ h e _ => h.handle e.1 e.2

/-- What is typed into a start dialog with candidates keeps the form one of the dialog as long as it
is open. What is attempted when it is confirmed are the candidates with a flag, or the one under the
cursor; it does not fail for want of a port, and a failure leaves the form as it is beside its
error. -/
theorem form_after_keys (hopen : c.modal = some (.selection (.ofDialog number d)))
    (hsome : d.candidates ≠ []) (events : List (Registry × Event)) {f : Form}
    (hstill : (c.after events).modal = some (.selection f)) :
    f.Fits number d ∧
      (∃ chosen, f.Attempts chosen ∧
        f.selection = Selection.ofCandidates chosen f.localPorts f.address) ∧
      f.selection ≠ .error (.invalidPorts .noneSelected) ∧
      ∀ (registry : Registry) (control : Bool),
        (∀ s, f.selection = .ok s →
          (c.after events).handle registry (.press ⟨.enter, control⟩) =
            ⟨.handled, { c.after events with modal := none },
              some (.confirmSelection (c.after events).controller number s)⟩) ∧
        ∀ e, f.selection = .error e →
          (c.after events).handle registry (.press ⟨.enter, control⟩) =
            ⟨.handled,
              { c.after events with modal := some (.selection { f with error := some e }) }, none⟩ := by
  have hshows : c.ShowsFormOf number d := by
    intro f' hmodal
    cases hopen.symm.trans hmodal
    exact Form.fits_ofDialog number hsome
  have hfits := hshows.after events f hstill
  refine ⟨hfits, ⟨f.attempted, hfits.attempts, rfl⟩,
    Selection.ofCandidates_ne_noneSelected hfits.attempts.ne_nil _ _, ?_⟩
  intro registry control
  constructor
  · intro s hselection
    simp [State.handle, State.press, hstill, pressSelection, hselection, hfits.dialog]
  · intro e hselection
    simp [State.handle, State.press, hstill, pressSelection, hselection]

/-- In the start dialog of a pod with two candidates the user checks the second one, goes on to the
local ports, types an x and confirms. -/
def faultyKeys : List (Registry × Event) :=
  [.down, .char ' ', .tab, .char 'x', .enter].map fun code => ({}, .press { code })

/-- The x is no port, however often it is confirmed; the flag and the cursor stay. -/
theorem proxied_form_after_keys :
    ∃ f, (proxiedConsole.after faultyKeys).modal = some (.selection f) ∧
      f.checked = [false, true] ∧ f.cursor = 1 ∧ f.localPorts = "x" ∧
      f.error = some (.invalidPorts (.notAPort "x")) ∧
      (∃ chosen, f.Attempts chosen ∧
        f.selection = Selection.ofCandidates chosen f.localPorts f.address) ∧
      ((proxiedConsole.after faultyKeys).handle {} (.press { code := .enter })).console =
        { proxiedConsole.after faultyKeys with modal := some (.selection f) } := by
  have hstill : (proxiedConsole.after faultyKeys).modal = some (.selection
      { dialog := 3, pod := ⟨"ns", "web-0"⟩, candidates := tcpCandidates proxiedPod.ports,
        checked := [false, true], cursor := 1, field := .localPorts, localPorts := "x",
        address := "127.0.0.1", error := some (.invalidPorts (.notAPort "x")) }) := by rfl
  obtain ⟨-, hattempts, -, henter⟩ := form_after_keys rfl (by decide) faultyKeys hstill
  refine ⟨_, hstill, rfl, rfl, rfl, rfl, hattempts, ?_⟩
  exact congrArg Reaction.console ((henter {} false).2 (.invalidPorts (.notAPort "x")) (by rfl))

end State

end Console

end PodTunnels
