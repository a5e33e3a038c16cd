import PodTunnels.Console.Reload
import Mathlib.Data.List.Induction
import Mathlib.Data.List.Nodup

/-!
# Reloads that overtake one another

Several reloads of the pods may be under way at once, and each puts in its outcome when it ends. The
events of a run and the reloads under way tell which reloads end, in which order, and how
(`Reloads.endings`): every reload that was started is under way or has ended, and none ends twice.

So the listing that stays is the one that was put in last (`last_success_stays`). It need not be the
one of the newest reload: an older one that takes longer comes after it and stands in its place
(`older_reload_replaces_newer`).
-/

namespace PodTunnels.Console.Reloads

variable {r : Reloads} {e : Event}

/-! ## Which reloads end -/

/-- The reload that ends by an event, with its outcome. -/
def ended? (r : Reloads) : Event → Option (Nat × Reloaded)
  | .arrive reload result _ => if r.underWay.contains reload then some (reload, result) else none
  | .request | .tick => none

/-- The reloads that end in a sequence of events, in the order in which they end. -/
def endings (r : Reloads) : List Event → List (Nat × Reloaded)
  | [] => []
  | e :: events => (r.ended? e).toList ++ (r.step e).endings events

/-- The listings of those that succeeded. -/
def succeeded (ended : List (Nat × Reloaded)) : List (Nat × List PodSummary) :=
  ended.filterMap fun x => x.2.toOption.map (x.1, ·)

theorem run_concat (r : Reloads) (events : List Event) (e : Event) :
    r.run (events ++ [e]) = (r.run events).step e := by
  simp [run]

theorem endings_concat (r : Reloads) (events : List Event) (e : Event) :
    r.endings (events ++ [e]) = r.endings events ++ ((r.run events).ended? e).toList := by
  induction events generalizing r with
  | nil => simp [endings, run]
  | cons first events ih =>
    show (r.ended? first).toList ++ (r.step first).endings (events ++ [e]) = _
    rw [ih, ← List.append_assoc]
    rfl

/-! ## One event -/

/-- The numbers of the reloads that were started: those under way, and those that ended. -/
def Numbered (r : Reloads) (ended : List (Nat × Reloaded)) : Prop :=
  (r.underWay ++ ended.map Prod.fst).Perm (List.range r.started)

theorem Numbered.step {ended : List (Nat × Reloaded)} (h : r.Numbered ended) (e : Event) :
    (r.step e).Numbered (ended ++ (r.ended? e).toList) := by
  cases e with
  | request => simpa [Numbered, Reloads.step, ended?] using h
  | tick =>
    cases hrequest : r.console.refreshRequested with
    | false => simpa [Numbered, Reloads.step, ended?, State.takeRefreshRequest, hrequest] using h
    | true =>
      have hnew : ((r.underWay ++ [r.started]) ++ ended.map Prod.fst).Perm
          (List.range (r.started + 1)) := by
        rw [List.range_succ]
        apply List.Perm.trans _ (h.append_right [r.started])
        rw [List.append_assoc, List.append_assoc]
        exact List.Perm.append_left _ List.perm_append_comm
      simpa [Numbered, Reloads.step, ended?, State.takeRefreshRequest, hrequest] using hnew
  | arrive reload result now =>
    by_cases hunder : reload ∈ r.underWay
    · have hmoved : (r.underWay.erase reload ++ (ended.map Prod.fst ++ [reload])).Perm
          (List.range r.started) := by
        apply List.Perm.trans _ h
        apply List.Perm.trans _
          ((List.perm_cons_erase hunder).symm.append_right _)
        rw [← List.append_assoc]
        exact List.perm_append_comm
      simpa [Numbered, Reloads.step, ended?, hunder] using hmoved
    · simpa [Numbered, Reloads.step, ended?, hunder] using h

/-- A reload that ends well puts in its listing, and nothing else changes the pods. -/
theorem pods_step (r : Reloads) (e : Event) :
    (r.step e).console.pods =
      ((succeeded (r.ended? e).toList).getLast?.map Prod.snd).getD r.console.pods := by
  cases e with
  | request => rfl
  | tick =>
    cases hrequest : r.console.refreshRequested <;>
      simp [Reloads.step, ended?, succeeded, State.takeRefreshRequest, hrequest]
  | arrive reload result now =>
    by_cases hunder : reload ∈ r.underWay
    · cases result with
      | ok pods => simp [Reloads.step, ended?, hunder, succeeded, Except.toOption, State.setPods]
      | error e =>
        simp [Reloads.step, ended?, hunder, succeeded, Except.toOption, State.setPods,
          State.showFlash]
    · simp [Reloads.step, ended?, hunder, succeeded]

/-! ## All events -/

theorem numbered_run (console : State) (events : List Event) :
    ((initial console).run events).Numbered ((initial console).endings events) := by
  induction events using List.reverseRecOn with
  | nil => exact List.Perm.refl _
  | append_singleton events e ih =>
    rw [run_concat, endings_concat]
    exact ih.step e

theorem pods_run (r : Reloads) (events : List Event) :
    (r.run events).console.pods =
      ((succeeded (r.endings events)).getLast?.map Prod.snd).getD r.console.pods := by
  induction events using List.reverseRecOn with
  | nil => rfl
  | append_singleton events e ih =>
    rw [run_concat, endings_concat, pods_step, ih]
    simp only [succeeded, List.filterMap_append, List.getLast?_append]
    cases (List.filterMap _ ((r.run events).ended? e).toList).getLast? <;> rfl

/-! ## The newest reload -/

/-- The newest of the reloads that succeeded. -/
structure Newest (ended : List (Nat × Reloaded)) (reload : Nat) (pods : List PodSummary) :
    Prop where
  succeeded : (reload, pods) ∈ succeeded ended
  newest : ∀ other ∈ Reloads.succeeded ended, other.1 ≤ reload

/-- A reload is overtaken when one that was started before it succeeds after it. -/
def Overtaken (ended : List (Nat × Reloaded)) (reload : Nat) : Prop :=
  ∃ before pods after, succeeded ended = before ++ (reload, pods) :: after ∧
    ∃ other ∈ after, other.1 < reload

theorem numbers_succeeded (ended : List (Nat × Reloaded)) :
    (succeeded ended).map Prod.fst =
      (ended.filter fun x => x.2.toOption.isSome).map Prod.fst := by
  induction ended with
  | nil => rfl
  | cons x ended ih =>
    obtain ⟨reload, result⟩ := x
    cases result with
    | ok pods => simpa [succeeded, Except.toOption] using ih
    | error e => simpa [succeeded, Except.toOption] using ih

/-- No reload succeeds twice. -/
theorem Numbered.nodup_succeeded {ended : List (Nat × Reloaded)} (h : r.Numbered ended) :
    ((succeeded ended).map Prod.fst).Nodup := by
  have hended : (ended.map Prod.fst).Nodup := (h.nodup_iff.2 List.nodup_range).of_append_right
  rw [numbers_succeeded]
  exact hended.sublist (List.filter_sublist.map Prod.fst)

theorem ne_of_mem_after {listings before after : List (Nat × List PodSummary)} {reload : Nat}
    {pods : List PodSummary} (hnodup : (listings.map Prod.fst).Nodup)
    (hsplit : listings = before ++ (reload, pods) :: after) :
    ∀ other ∈ after, other.1 ≠ reload := by
  intro other hother heq
  rw [hsplit, List.map_append, List.map_cons] at hnodup
  apply (List.nodup_cons.1 hnodup.of_append_right).1
  exact List.mem_map.2 ⟨other, hother, heq⟩

/-- The newest listing is the last one unless its reload is overtaken. -/
theorem getLast?_succeeded_iff {ended : List (Nat × Reloaded)} {reload : Nat}
    {pods : List PodSummary} (hnodup : ((succeeded ended).map Prod.fst).Nodup)
    (hnewest : Newest ended reload pods) :
    (succeeded ended).getLast? = some (reload, pods) ↔ ¬ Overtaken ended reload := by
  constructor
  · rintro hlast ⟨before, pods', after, hsplit, other, hother, -⟩
    have hlater : (reload, pods) ∈ after := by
      rw [hsplit, List.getLast?_append_of_ne_nil _ (List.cons_ne_nil _ _)] at hlast
      cases after with
      | nil => cases hother
      | cons x after =>
        rw [List.getLast?_cons_cons] at hlast
        exact List.mem_of_getLast? hlast
    exact ne_of_mem_after hnodup hsplit _ hlater rfl
  · intro hfirst
    obtain ⟨before, after, hsplit⟩ := List.append_of_mem hnewest.succeeded
    cases after with
    | nil => rw [hsplit, List.getLast?_append_cons, List.getLast?_singleton]
    | cons x after =>
      have hx : x ∈ succeeded ended := by simp [hsplit]
      have hne := ne_of_mem_after hnodup hsplit x List.mem_cons_self
      have hle := hnewest.newest x hx
      have holder : x.1 < reload := by omega
      exact absurd ⟨before, pods, x :: after, hsplit, x, List.mem_cons_self, holder⟩ hfirst

/-- Every reload that was started is under way or has ended, and none ends twice. The listing that
stays is the one put in last; it is the one of the newest reload that succeeded if and only if no
older one succeeds after it. -/
theorem last_success_stays (console : State) (events : List Event) :
    let r := (initial console).run events
    let ended := (initial console).endings events
    (r.underWay ++ ended.map Prod.fst).Perm (List.range r.started) ∧
      r.console.pods = ((succeeded ended).getLast?.map Prod.snd).getD console.pods ∧
      ∀ reload pods, Newest ended reload pods →
        ((succeeded ended).getLast? = some (reload, pods) ↔ ¬ Overtaken ended reload) := by
  intro r ended
  have hnumbered : r.Numbered ended := numbered_run console events
  refine ⟨hnumbered, pods_run _ events, ?_⟩
  intro reload pods hnewest
  exact getLast?_succeeded_iff hnumbered.nodup_succeeded hnewest

/-- A listing of one pod. -/
def onePod (name : String) : List PodSummary :=
  [⟨⟨"ns", name⟩, "Running", {}⟩]

/-- Of three reloads that are under way at once the oldest ends first, the newest fails, and the one
between them puts in the listing that stays. -/
theorem newest_success_stays :
    let console : State := { controller := 0, ns := "ns" }
    let events : List Event :=
      [.tick, .request, .tick, .request, .tick, .arrive 0 (.ok (onePod "old")) 10,
        .arrive 2 (.error .timedOut) 20, .arrive 1 (.ok (onePod "new")) 30]
    let ended := (initial console).endings events
    Newest ended 1 (onePod "new") ∧ ¬ Overtaken ended 1 ∧
      ((initial console).run events).console.pods = onePod "new" := by
  intro console events ended
  have hsucceeded : succeeded ended = [(0, onePod "old"), (1, onePod "new")] := rfl
  have hnewest : Newest ended 1 (onePod "new") := by
    constructor
    · simp [hsucceeded]
    · simp [hsucceeded]
  obtain ⟨-, hpods, hlast⟩ := last_success_stays console events
  have hkept : (succeeded ended).getLast? = some (1, onePod "new") := rfl
  refine ⟨hnewest, (hlast 1 _ hnewest).1 hkept, ?_⟩
  rw [hpods]
  rfl

/-- Once no reload is under way, the pods would be those of the newest reload that succeeded. -/
def NewestStays (console : State) (events : List Event) : Prop :=
  ((initial console).run events).underWay = [] →
    ∀ reload pods, Newest ((initial console).endings events) reload pods →
      ((initial console).run events).console.pods = pods

/-- An older reload that ends after a newer one replaces its listing. -/
theorem older_reload_replaces_newer :
    ¬ NewestStays { controller := 0, ns := "ns" }
      [.tick, .request, .tick, .arrive 1 (.ok (onePod "new")) 0, .arrive 0 (.ok (onePod "old")) 0] := by
  intro hstays
  have hpods := hstays rfl 1 (onePod "new") ⟨List.mem_cons_self, by decide⟩
  have hnames : ["old"] = ["new"] :=
    congrArg (List.map fun p : PodSummary => p.path.name) hpods
  exact absurd hnames (by decide)

end PodTunnels.Console.Reloads
