import PodTunnels.Proofs.Agreement
import PodTunnels.Proofs.Reloads

/-!
# The sign of a reload

The console shows that it is loading from the moment a reload is started until one ends
(`loading_step`). A sign that is shown is never wrong, and while reloads come one after another it
is never missing. When several are under way, the first one that ends takes the sign away, and until
another reload is started the rest are overlooked (`Overlooked`). That is the only way in which the
sign is missing (`loading_iff`).
-/

namespace PodTunnels.Console.Reloads

variable {r : Reloads} {console : State} {events : List Event} {e : Event}

/-! ## One event -/

/-- The sign is there after an event that starts a reload, and stays after one that ends none. -/
theorem loading_step (r : Reloads) (e : Event) :
    (r.step e).console.loading = true ↔
      r.started < (r.step e).started ∨ r.console.loading = true ∧ r.ended? e = none := by
  cases e with
  | request => simp [Reloads.step, State.requestRefresh, ended?]
  | tick =>
    cases hrequest : r.console.refreshRequested <;>
      simp [Reloads.step, State.takeRefreshRequest, ended?, hrequest]
  | arrive reload result now =>
    by_cases hunder : reload ∈ r.underWay
    · cases result <;> simp [Reloads.step, State.setPods, State.showFlash, ended?, hunder]
    · simp [Reloads.step, ended?, hunder]

/-- A reload is under way after an event that starts one, and after one that ends none of those that
were. -/
theorem underWay_step
    (h : r.started < (r.step e).started ∨ r.underWay ≠ [] ∧ r.ended? e = none) :
    (r.step e).underWay ≠ [] := by
  cases e with
  | request => simpa [Reloads.step, ended?] using h
  | tick =>
    cases hrequest : r.console.refreshRequested <;>
      simp_all [Reloads.step, State.takeRefreshRequest, ended?]
  | arrive reload result now =>
    by_cases hunder : reload ∈ r.underWay <;> simp_all [Reloads.step, ended?]

theorem started_le_step (r : Reloads) (e : Event) : r.started ≤ (r.step e).started := by
  cases e with
  | request => exact Nat.le_refl _
  | tick =>
    cases hrequest : r.console.refreshRequested <;>
      simp [Reloads.step, State.takeRefreshRequest, hrequest]
  | arrive reload result now =>
    by_cases hunder : reload ∈ r.underWay <;> simp [Reloads.step, hunder]

/-! ## All events -/

/-- A reload has ended, and none was started since. -/
def EndedSince (console : State) (events : List Event) : Prop :=
  ∃ before e after, events = before ++ e :: after ∧
    ((initial console).run before).ended? e ≠ none ∧
    ((initial console).run events).started = ((initial console).run before).started

theorem started_le_run (r : Reloads) (events : List Event) :
    r.started ≤ (r.run events).started := by
  induction events using List.reverseRecOn with
  | nil => exact Nat.le_refl _
  | append_singleton events e ih =>
    rw [run_concat]
    exact Nat.le_trans ih (started_le_step _ e)

theorem endedSince_concat :
    EndedSince console (events ++ [e]) ↔
      ((initial console).run (events ++ [e])).started = ((initial console).run events).started ∧
        (((initial console).run events).ended? e ≠ none ∨ EndedSince console events) := by
  have hstep := started_le_step ((initial console).run events) e
  rw [← run_concat] at hstep
  constructor
  · rintro ⟨before, first, after, hsplit, hended, hstarted⟩
    rcases Desk.eq_or_split_of_concat hsplit with ⟨rfl, rfl⟩ | ⟨between, rfl⟩
    · exact ⟨hstarted, .inl hended⟩
    · have hbefore := started_le_run ((initial console).run before) (first :: between)
      have hrun : ((initial console).run before).run (first :: between) =
          (initial console).run (before ++ first :: between) := List.foldl_append.symm
      rw [hrun] at hbefore
      exact ⟨by omega, .inr ⟨before, first, between, rfl, hended, by omega⟩⟩
  · rintro ⟨hsame, hended | ⟨before, first, after, rfl, hended, hstarted⟩⟩
    · exact ⟨events, e, [], rfl, hended, hsame⟩
    · exact ⟨before, first, after ++ [e], by simp, hended, hsame.trans hstarted⟩

/-- The sign is there once a reload was started, unless one has ended since. -/
theorem loading_run (hidle : console.loading = false) (events : List Event) :
    ((initial console).run events).console.loading = true ↔
      0 < ((initial console).run events).started ∧ ¬ EndedSince console events := by
  induction events using List.reverseRecOn with
  | nil => simp [run, initial, hidle]
  | append_singleton events e ih =>
    have hstep := started_le_step ((initial console).run events) e
    rw [endedSince_concat, run_concat, loading_step, ih]
    rcases Nat.eq_or_lt_of_le hstep with hsame | hmore
    · simp only [← hsame, Nat.lt_irrefl, false_or, true_and, not_or, not_not, and_assoc]
      rw [and_comm (a := ¬ EndedSince console events)]
    · simp [hmore, Nat.ne_of_gt hmore, Nat.zero_lt_of_lt hmore]

/-- A sign that is shown is right. -/
theorem underWay_of_loading (hidle : console.loading = false) (events : List Event)
    (h : ((initial console).run events).console.loading = true) :
    ((initial console).run events).underWay ≠ [] := by
  induction events using List.reverseRecOn with
  | nil => simp [run, initial, hidle] at h
  | append_singleton events e ih =>
    rw [run_concat] at h ⊢
    exact underWay_step (((loading_step _ e).1 h).imp_right (And.imp_left ih))

theorem started_of_underWay {ended : List (Nat × Reloaded)} (h : r.Numbered ended)
    (hunder : r.underWay ≠ []) : 0 < r.started := by
  obtain ⟨reload, hreload⟩ := List.exists_mem_of_ne_nil _ hunder
  have hnumber : reload ∈ List.range r.started := h.mem_iff.1 (List.mem_append_left _ hreload)
  exact Nat.zero_lt_of_lt (List.mem_range.1 hnumber)

/-! ## What is overlooked -/

/-- Reloads are under way, but one that they overlapped has ended, and none was started since. -/
def Overlooked (console : State) (events : List Event) : Prop :=
  ((initial console).run events).underWay ≠ [] ∧ EndedSince console events

/-- A sign that is shown is right, and it shows whether reloads are under way if and only if none of
them is overlooked. -/
theorem loading_iff {console : State} (hidle : console.loading = false) (events : List Event) :
    let r := (initial console).run events
    (r.console.loading = true → r.underWay ≠ []) ∧
      ((r.console.loading = true ↔ r.underWay ≠ []) ↔ ¬ Overlooked console events) := by
  intro r
  refine ⟨underWay_of_loading hidle events, ?_⟩
  by_cases hunder : r.underWay = []
  · have hsign : ¬ r.console.loading = true := fun h => underWay_of_loading hidle events h hunder
    exact iff_of_true (iff_of_false hsign (not_not.2 hunder)) fun h => h.1 hunder
  · have hstarted : 0 < r.started := started_of_underWay (numbered_run console events) hunder
    rw [loading_run hidle, iff_true_right hunder, and_iff_right hstarted, Overlooked,
      and_iff_right hunder]

/-- A reload that is started after the last one ended is shown, whatever else is under way. -/
theorem third_reload_shown :
    let console : State := { controller := 0, ns := "ns" }
    let events : List Event :=
      [.tick, .request, .tick, .arrive 1 (.error .timedOut) 10, .request, .tick]
    console.loading = false ∧ ((initial console).run events).underWay = [0, 2] ∧
      ((initial console).run events).console.loading = true ∧ ¬ Overlooked console events := by
  intro console events
  have hsign : ((initial console).run events).console.loading = true := rfl
  obtain ⟨hright, hiff⟩ := @loading_iff console rfl events
  exact ⟨rfl, rfl, hsign, hiff.1 (iff_of_true hsign (hright hsign))⟩

/-- Of two reloads that are under way the first one ends, and the sign is gone. -/
theorem second_reload_overlooked :
    let r := (initial { controller := 0, ns := "ns" }).run
      [.tick, .request, .tick, .arrive 0 (.ok []) 10]
    ¬ (r.console.loading = true ↔ r.underWay ≠ []) := by
  intro r hsign
  have hshown : r.console.loading = true := hsign.2 (List.cons_ne_nil 1 [])
  exact absurd hshown (by decide)

end PodTunnels.Console.Reloads
