import PodTunnels.Proofs.Agreement
import PodTunnels.Proofs.Deletion

/-!
# Cursors

The console has a cursor for each of its two listings. A key moves the cursor of the listing that is
shown, and only to where there is a row (`State.Browses`). The pods change by reloads alone, which
put their cursor back among them, so it always stands at a pod. The forwards are those of the
registry, which changes behind the console, and nothing puts their cursor back: it stands at a
forward unless sessions were removed from under it and no row has come under it since
(`cursors_stand_iff`).
-/

namespace PodTunnels

/-! ## Rows of the registry -/

namespace Registry

variable {r : Registry}

theorem exists_listed (wf : r.WellFormed) :
    ∃ ss : List Session, r.sessions.map r.session? = ss.map some := by
  obtain ⟨ss, hsessions, -⟩ := exists_sessions_of_entries wf fun _ h => h
  exact ⟨ss, hsessions⟩

/-- Every registered session has its row. -/
theorem snapshot_eq_map {ss : List Session} (h : r.sessions.map r.session? = ss.map some) :
    r.snapshot = ss.map Session.forward := by
  have hrows : r.snapshot =
      (r.sessions.map r.session?).filterMap (Option.map Session.forward) := by
    rw [snapshot, List.filterMap_map]
    rfl
  rw [hrows, h, List.filterMap_map, ← List.filterMap_eq_map]
  rfl

theorem getElem?_sessions {ss : List Session} (h : r.sessions.map r.session? = ss.map some)
    (row : Nat) : r.sessions[row]?.bind r.session? = ss[row]? := by
  have hrow : r.sessions[row]?.map r.session? = ss[row]?.map some := by
    rw [← List.getElem?_map, ← List.getElem?_map, h]
  cases hid : r.sessions[row]? <;> cases hs : ss[row]? <;> simp_all

theorem length_snapshot (wf : r.WellFormed) : r.snapshot.length = r.size := by
  obtain ⟨ss, hsessions⟩ := exists_listed wf
  have hlength := congrArg List.length hsessions
  rw [List.length_map, List.length_map] at hlength
  rw [snapshot_eq_map hsessions, List.length_map, ← hlength]
  simp [sessions, size, OrderedMap.values, OrderedMap.size]

end Registry

namespace Console

/-! ## What an event does to the listings -/

namespace State

variable {c c' : State} {registry : Registry}

/-- The pods, the cursors and the view are as they were. -/
structure Rests (c c' : State) : Prop where
  pods : c'.pods = c.pods
  selected : c'.selected = c.selected
  forwardSelected : c'.forwardSelected = c.forwardSelected
  view : c'.view = c.view

theorem Rests.rfl : c.Rests c := ⟨.refl _, .refl _, .refl _, .refl _⟩

theorem Rests.trans {c'' : State} (h : c.Rests c') (h' : c'.Rests c'') : c.Rests c'' :=
  ⟨h'.pods.trans h.pods, h'.selected.trans h.selected, h'.forwardSelected.trans h.forwardSelected,
    h'.view.trans h.view⟩

/-- An event leaves the listings as they are, or shows the other one, or moves the cursor of the
shown one up or to a row; and where it does something to them, it results in no move. -/
inductive Browses (c : State) (registry : Registry) : Reaction → Prop
  | rests {r : Reaction} (hrests : c.Rests r.console) : Browses c registry r
  | turned {h : Handling} : Browses c registry ⟨h, c.toggleView, none⟩
  | moved {h : Handling} {row : Nat} (hrow : row ≤ c.cursor ∨ row < c.rowCount registry) :
      Browses c registry ⟨h, c.setCursor row, none⟩

theorem browses_selectDown (c : State) (registry : Registry) (h : Handling) :
    c.Browses registry ⟨h, c.selectDown registry, none⟩ := by
  unfold selectDown
  split
  · rename_i hbelow
    exact .moved (.inr hbelow)
  · exact .rests .rfl

theorem browses_listing (c : State) (registry : Registry) (code : KeyCode) :
    c.Browses registry (c.pressListing registry code) := by
  unfold pressListing
  split
  · exact .rests ⟨rfl, rfl, rfl, rfl⟩
  · exact .rests ⟨rfl, rfl, rfl, rfl⟩
  · exact .turned
  · exact browses_selectDown ..
  · exact browses_selectDown ..
  · exact .moved (.inl (Nat.sub_le ..))
  · exact .moved (.inl (Nat.sub_le ..))
  · split
    · unfold act
      split
      · exact .rests ⟨rfl, rfl, rfl, rfl⟩
      · split <;> exact .rests .rfl
    · exact .rests .rfl
  · exact .rests .rfl

theorem rests_selection (c : State) (f : Form) (code : KeyCode) :
    c.Rests (c.pressSelection f code).console := by
  unfold pressSelection
  split
  · exact .rfl
  · split <;> exact ⟨rfl, rfl, rfl, rfl⟩
  · exact ⟨rfl, rfl, rfl, rfl⟩

theorem rests_deletion (c : State) (number : Nat) (d : DeletionDialog) (code : KeyCode) :
    c.Rests (c.pressDeletion number d code).console := by
  unfold pressDeletion
  split <;> exact ⟨rfl, rfl, rfl, rfl⟩

theorem browses (c : State) (registry : Registry) (e : Event) :
    c.Browses registry (c.handle registry e) := by
  cases e with
  | press key =>
    simp only [handle, press]
    split
    · exact .rests ⟨rfl, rfl, rfl, rfl⟩
    · split
      · rename_i f _
        have hrests := rests_selection { c with modal := none } f key.code
        exact .rests ⟨hrests.pods, hrests.selected, hrests.forwardSelected, hrests.view⟩
      · rename_i number d _
        have hrests := rests_deletion { c with modal := none } number d key.code
        exact .rests ⟨hrests.pods, hrests.selected, hrests.forwardSelected, hrests.view⟩
      · exact browses_listing ..
  | release | resize | other => exact .rests .rfl

/-- The cursor among the pods is at one of them. -/
def PodsStand (c : State) : Prop :=
  c.pods ≠ [] → c.selected < c.pods.length

theorem PodsStand.of_rests (h : c.PodsStand) (hrests : c.Rests c') : c'.PodsStand := by
  rw [PodsStand, hrests.pods, hrests.selected]
  exact h

theorem PodsStand.setCursor (h : c.PodsStand) {row : Nat}
    (hrow : row ≤ c.cursor ∨ row < c.rowCount registry) : (c.setCursor row).PodsStand := by
  unfold State.setCursor
  unfold cursor rowCount at hrow
  split
  · rename_i hview
    rw [hview] at hrow
    exact fun hsome => hrow.elim (fun hup => Nat.lt_of_le_of_lt hup (h hsome)) id
  · exact h

theorem PodsStand.handle (h : c.PodsStand) (registry : Registry) (e : Event) :
    (c.handle registry e).console.PodsStand := by
  have hbrowses := c.browses registry e
  generalize c.handle registry e = r at hbrowses
  cases hbrowses with
  | rests hrests => exact h.of_rests hrests
  | turned => exact h
  | moved hrow => exact h.setCursor hrow

/-- A reload puts the cursor back among the pods. -/
theorem PodsStand.setPods (h : c.PodsStand) (result : Reloaded) (now : Nat) :
    (c.setPods result now).PodsStand := by
  cases result with
  | ok pods =>
    intro hsome
    have hlength : 0 < pods.length := List.length_pos_iff.2 hsome
    exact Nat.lt_of_le_of_lt (Nat.min_le_right ..) (Nat.sub_lt hlength Nat.one_pos)
  | error e => exact h

theorem forwardSelected_setPods (c : State) (result : Reloaded) (now : Nat) :
    (c.setPods result now).forwardSelected = c.forwardSelected := by
  cases result <;> rfl

theorem rests_expireFlash (c : State) (now : Nat) : c.Rests (c.expireFlash now) := by
  unfold expireFlash
  split
  · split
    · exact ⟨rfl, rfl, rfl, rfl⟩
    · exact .rfl
  · exact .rfl

theorem rests_takeRefreshRequest (c : State) : c.Rests c.takeRefreshRequest.2 := by
  unfold takeRefreshRequest
  split <;> exact ⟨rfl, rfl, rfl, rfl⟩

end State

namespace Desk

variable {desk : Desk} {occurrences : List Occurrence} {o : Occurrence}

theorem rests_tell (ctl : Option Controller) (now : Nat) (c : State) (effect : Effect) :
    c.Rests (tell ctl now c effect) := by
  cases effect with
  | showSelection | showDeletion =>
    simp only [tell]
    split <;> exact ⟨rfl, rfl, rfl, rfl⟩
  | _ => exact ⟨rfl, rfl, rfl, rfl⟩

theorem rests_step (desk : Desk) (m : Move) : desk.console.Rests (desk.step m).console :=
  List.foldlRecOn (motive := fun c => State.Rests desk.console c) _ _ .rfl
    fun c h n _ => h.trans (rests_tell _ _ c n.effect)

/-! ## What happens to the cursors -/

theorem podsStand_occur (h : desk.console.PodsStand) (o : Occurrence) :
    (desk.occur o).console.PodsStand := by
  cases o with
  | event e =>
    have hhandled := h.handle desk.sb.registry e
    simp only [occur, handle]
    split
    · exact hhandled.of_rests (rests_step ⟨desk.sb, _⟩ _)
    · exact hhandled
  | move m =>
    simp only [occur]
    split
    · exact h
    · exact h.of_rests (rests_step _ _)
  | reload => exact h.of_rests (State.rests_takeRefreshRequest _)
  | reloaded result => exact h.setPods result _
  | expire => exact h.of_rests (State.rests_expireFlash _ _)

theorem podsStand_run (h : desk.console.PodsStand) (occurrences : List Occurrence) :
    (desk.run occurrences).console.PodsStand :=
  List.foldlRecOn (motive := fun desk : Desk => desk.console.PodsStand) occurrences _ h
    fun _ h o _ => podsStand_occur h o

/-- There is a row under the cursor among the forwards. -/
def OnForward (desk : Desk) : Prop :=
  desk.console.forwardSelected < desk.sb.registry.size

/-- What happens leaves the cursor among the forwards where it is, or moves it up or to a row of the
registry, which stays as it is. -/
theorem forwardSelected_occur (desk : Desk) (o : Occurrence) :
    (desk.occur o).console.forwardSelected = desk.console.forwardSelected ∨
      (desk.occur o).sb = desk.sb ∧
        ((desk.occur o).console.forwardSelected ≤ desk.console.forwardSelected ∨
          (desk.occur o).OnForward) := by
  cases o with
  | event e =>
    have hbrowses := desk.console.browses desk.sb.registry e
    simp only [occur, handle]
    generalize desk.console.handle desk.sb.registry e = r at hbrowses
    cases hbrowses with
    | rests hrests =>
      left
      split
      · exact (rests_step _ _).forwardSelected.trans hrests.forwardSelected
      · exact hrests.forwardSelected
    | turned => exact .inl rfl
    | moved hrow =>
      unfold OnForward
      unfold State.cursor State.rowCount at hrow
      unfold State.setCursor
      cases hview : desk.console.view with
      | pods => exact .inl rfl
      | forwards =>
        rw [hview] at hrow
        exact .inr ⟨rfl, hrow⟩
  | move m =>
    left
    simp only [occur]
    split
    · rfl
    · exact (rests_step _ _).forwardSelected
  | reload => exact .inl (State.rests_takeRefreshRequest _).forwardSelected
  | reloaded result => exact .inl (State.forwardSelected_setPods ..)
  | expire => exact .inl (State.rests_expireFlash _ _).forwardSelected

/-- Sessions are removed from under the cursor among the forwards: there are fewer rows, and the
cursor stays where there is none any more. -/
structure Withdraws (desk : Desk) (o : Occurrence) : Prop where
  stood : desk.OnForward
  fewer : (desk.occur o).sb.registry.size < desk.sb.registry.size
  stays : (desk.occur o).console.forwardSelected = desk.console.forwardSelected
  gone : ¬ (desk.occur o).OnForward

/-- A row is lost from under the cursor in no other way. -/
theorem withdraws_of_not_onForward (h : desk.OnForward) (hgone : ¬ (desk.occur o).OnForward) :
    desk.Withdraws o := by
  rcases desk.forwardSelected_occur o with hstays | ⟨hsb, hup | hon⟩
  · unfold OnForward at h hgone
    exact ⟨h, by omega, hstays, hgone⟩
  · unfold OnForward at h hgone
    rw [hsb] at hgone
    omega
  · exact absurd hon hgone

/-- Sessions were removed from under the cursor among the forwards, and no row has come under it
since: no session was added there, and the cursor was not moved up to one. -/
def RowLost (start : Desk) (occurrences : List Occurrence) : Prop :=
  ∃ before o after, occurrences = before ++ o :: after ∧ (start.run before).Withdraws o ∧
    ∀ later, later <+: after → ¬ (start.run (before ++ o :: later)).OnForward

theorem RowLost.not_onForward {start : Desk} (h : start.RowLost occurrences) :
    ¬ (start.run occurrences).OnForward := by
  obtain ⟨before, o, after, rfl, -, hsince⟩ := h
  exact hsince after (List.prefix_refl after)

theorem RowLost.concat {start : Desk} (h : start.RowLost occurrences)
    (hgone : ¬ (start.run (occurrences ++ [o])).OnForward) :
    start.RowLost (occurrences ++ [o]) := by
  obtain ⟨before, o', after, rfl, hwithdraws, hsince⟩ := h
  refine ⟨before, o', after ++ [o], by simp, hwithdraws, ?_⟩
  intro later hlater
  rcases List.prefix_concat_iff.1 hlater with rfl | hearlier
  · simpa using hgone
  · exact hsince later hearlier

/-- The cursor among the forwards is at its beginning or at a row, or its row was lost. By induction
on what happens: where the cursor goes down there is a row. -/
theorem onForward_or_rowLost {start : Desk} (hstart : start.console.forwardSelected = 0)
    (occurrences : List Occurrence) :
    (start.run occurrences).console.forwardSelected = 0 ∨ (start.run occurrences).OnForward ∨
      start.RowLost occurrences := by
  induction occurrences using List.reverseRecOn with
  | nil => exact .inl hstart
  | append_singleton occurrences o ih =>
    by_cases hon : (start.run (occurrences ++ [o])).OnForward
    · exact .inr (.inl hon)
    · have hrun := run_concat start occurrences o
      rcases ih with hzero | hstood | hlost
      · left
        rw [hrun] at hon ⊢
        rcases (start.run occurrences).forwardSelected_occur o with hstays | ⟨-, hup | hrow⟩
        · exact hstays.trans hzero
        · exact Nat.le_zero.1 (hzero ▸ hup)
        · exact absurd hrow hon
      · refine .inr (.inr ⟨occurrences, o, [], rfl, ?_, ?_⟩)
        · exact withdraws_of_not_onForward hstood (hrun ▸ hon)
        · intro later hlater
          cases List.prefix_nil.1 hlater
          exact hon
      · exact .inr (.inr (hlost.concat hon))

/-! ## What the cursors are at -/

/-- If there are pods, the cursor among them is at one, and its target is the one under the cursor
where the pods are shown. -/
def StandsAtPod (desk : Desk) : Prop :=
  desk.console.pods ≠ [] → ∃ row, desk.console.pods[desk.console.selected]? = some row ∧
    (desk.console.view = .pods → desk.selectedTarget = some (.ofPod row.path))

/-- If there are forwards, the cursor among them is at one, and the pod of it is the target under
the cursor where the forwards are shown. -/
def StandsAtForward (desk : Desk) : Prop :=
  desk.sb.registry.snapshot ≠ [] →
    ∃ row, desk.sb.registry.snapshot[desk.console.forwardSelected]? = some row ∧
      (desk.console.view = .forwards → desk.selectedTarget = some (.ofPod row.key.pod))

theorem standsAtPod_of_podsStand (h : desk.console.PodsStand) : desk.StandsAtPod := by
  intro hsome
  have hrow := List.getElem?_eq_getElem (h hsome)
  refine ⟨_, hrow, fun hview => ?_⟩
  simp [selectedTarget, State.selectedTarget, hview, hrow]

theorem selectedTarget_forwards (wf : desk.sb.registry.WellFormed)
    (hview : desk.console.view = .forwards) :
    desk.selectedTarget =
      desk.sb.registry.snapshot[desk.console.forwardSelected]?.map
        fun row => .ofPod row.key.pod := by
  obtain ⟨ss, hsessions⟩ := Registry.exists_listed wf
  simp only [selectedTarget, State.selectedTarget, hview, Registry.getElem?_sessions hsessions,
    Registry.snapshot_eq_map hsessions, List.getElem?_map, Option.map_map]
  rfl

theorem onForward_iff (wf : desk.sb.registry.WellFormed) :
    desk.OnForward ↔ desk.console.forwardSelected < desk.sb.registry.snapshot.length := by
  rw [OnForward, Registry.length_snapshot wf]

theorem standsAtForward_iff (wf : desk.sb.registry.WellFormed) :
    desk.StandsAtForward ↔ (desk.sb.registry.snapshot ≠ [] → desk.OnForward) := by
  rw [onForward_iff wf]
  constructor
  · intro hstands hsome
    obtain ⟨row, hrow, -⟩ := hstands hsome
    exact (List.getElem?_eq_some_iff.1 hrow).1
  · intro hon hsome
    have hrow := List.getElem?_eq_getElem (hon hsome)
    refine ⟨_, hrow, fun hview => ?_⟩
    rw [selectedTarget_forwards wf hview, hrow]
    rfl

theorem not_standsAtForward (hsome : desk.sb.registry.snapshot ≠ [])
    (hgone : desk.sb.registry.snapshot.length ≤ desk.console.forwardSelected) :
    ¬ desk.StandsAtForward := by
  intro hstands
  obtain ⟨row, hrow, -⟩ := hstands hsome
  exact Nat.not_lt.2 hgone (List.getElem?_eq_some_iff.1 hrow).1

end Desk

/-- The cursors of a console. Whatever happens, the cursor among the pods is at one of them if there
are any. For the forwards this is so just as long as the row of the cursor was not lost; where it
was, there is no target under the cursor. -/
theorem cursors_stand_iff (surroundings : Surroundings) (controllers : List (String × Nat))
    (c : ControllerId) (ns : String) (occurrences : List Occurrence) :
    let start := Desk.initial surroundings controllers c ns
    let desk := start.run occurrences
    desk.StandsAtPod ∧
      (desk.StandsAtForward ↔
        ¬ (desk.sb.registry.snapshot ≠ [] ∧ start.RowLost occurrences)) ∧
      (start.RowLost occurrences → desk.console.view = .forwards → desk.selectedTarget = none) := by
  intro start desk
  have wf : desk.sb.registry.WellFormed :=
    (Desk.sound_run (Switchboard.sound_initial surroundings controllers) occurrences).wellFormed
  have hpods : start.console.PodsStand := fun hsome => absurd rfl hsome
  have hstart : start.console.forwardSelected = 0 := rfl
  refine ⟨Desk.standsAtPod_of_podsStand (Desk.podsStand_run hpods occurrences), ?_, ?_⟩
  · rw [Desk.standsAtForward_iff wf]
    constructor
    · rintro hon ⟨hsome, hlost⟩
      exact hlost.not_onForward (hon hsome)
    · intro hkept hsome
      rcases Desk.onForward_or_rowLost hstart occurrences with hzero | hon | hlost
      · rw [Desk.onForward_iff wf, hzero]
        exact List.length_pos_iff.2 hsome
      · exact hon
      · exact absurd ⟨hsome, hlost⟩ hkept
  · intro hlost hview
    have hgone := hlost.not_onForward
    rw [Desk.onForward_iff wf, Nat.not_lt] at hgone
    rw [Desk.selectedTarget_forwards wf hview, List.getElem?_eq_none hgone]
    rfl

/-- Two forwards are started and listed, the cursor is moved to the second one, and the first one
ends. -/
def firstForwardEnds : List Occurrence :=
  let second : Selection :=
    ⟨"app", [{ address := "127.0.0.1", localPort := 20901, containerPort := 8080 }]⟩
  let starts : List Move := Switchboard.webStart 0 0 ++
    [.applyTask 0, .start 0 ⟨"ns", "web-1"⟩ second, .finishJob 0, .applyTask 0, .stepRunner 1,
      .applyTask 0]
  let ends : List Move := [.signalFinish 0 .success, .stepRunner 0, .applyTask 0]
  starts.map .move ++ [.event (.press { code := .tab }), .event (.press { code := .down })] ++
    ends.map .move

theorem cursor_of_firstForwardEnds :
    let desk := (Desk.initial { cluster := .empty } [("127.0.0.1", 30)] 0 "ns").run firstForwardEnds
    desk.sb.registry.snapshot ≠ [] ∧
      desk.sb.registry.snapshot.length ≤ desk.console.forwardSelected ∧
      desk.console.view = .forwards := by
  decide +kernel

/-- A forward is listed, and the cursor is not at it. -/
theorem cursor_left_behind :
    ¬ ((Desk.initial { cluster := .empty } [("127.0.0.1", 30)] 0 "ns").run
      firstForwardEnds).StandsAtForward :=
  Desk.not_standsAtForward cursor_of_firstForwardEnds.1 cursor_of_firstForwardEnds.2.1

/-- The row was lost when the first forward left, and there is no target. -/
theorem rowLost_of_firstForwardEnds :
    let start := Desk.initial { cluster := .empty } [("127.0.0.1", 30)] 0 "ns"
    start.RowLost firstForwardEnds ∧ (start.run firstForwardEnds).StandsAtPod ∧
      (start.run firstForwardEnds).selectedTarget = none := by
  intro start
  obtain ⟨hpods, hiff, htarget⟩ :=
    cursors_stand_iff { cluster := .empty } [("127.0.0.1", 30)] 0 "ns" firstForwardEnds
  obtain ⟨hsome, hgone, hview⟩ := cursor_of_firstForwardEnds
  have hlost : start.RowLost firstForwardEnds := by
    by_contra hkept
    exact Desk.not_standsAtForward hsome hgone (hiff.2 fun h => hkept h.2)
  exact ⟨hlost, hpods, htarget hlost hview⟩

end Console

end PodTunnels
