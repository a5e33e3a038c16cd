import PodTunnels.Proofs.Claims

/-!
# The moves of a start

What the moves of a start do to its affair. Being asked for, it is turned down or its ports are
being checked; the end of the check hands what came of it to the interface; and when the interface
applies that, the start is settled, with a failure or with a session (`affair_verdict`). To a start
that was not asked for yet nothing has happened (`fresh_run`).
-/

namespace PodTunnels

namespace Affair

def checking (c : ControllerId) (k : StartId) (key : SessionKey) (selection : Selection) : Affair :=
  { untouched with checks := [.checkPorts c k key selection] }

/-- What came of the check waits. -/
def checked (c : ControllerId) (k : StartId) (key : SessionKey) (selection : Selection)
    (result : Except Failure Unit) : Affair :=
  { untouched with
    verdicts := Function.update untouched.verdicts c [.checked k key selection result] }

theorem mem_verdicts_checked {c c' : ControllerId} {k : StartId} {key : SessionKey}
    {selection : Selection} {result : Except Failure Unit} {task : Task} :
    task ∈ (checked c k key selection result).verdicts c' ↔
      c' = c ∧ task = .checked k key selection result := by
  by_cases hc : c' = c <;> simp [checked, untouched, hc]

/-- What came of the start is settled, a failure was told, and sessions may have been made. -/
def settled (c : ControllerId) (k : StartId) (result : Except Failure Unit)
    (made : List (Wiring × SessionId)) : Affair :=
  { untouched with
    told := match result with
      | .error e => [⟨c, .start k, .error e⟩]
      | .ok _ => []
    made }

/-- The failure was told, and there may be sessions that were given up. -/
def failed (c : ControllerId) (k : StartId) (e : Failure) (made : List (Wiring × SessionId)) :
    Affair :=
  { untouched with told := [⟨c, .start k, .error e⟩], made }

/-- There is a session, and nothing was told. -/
def succeeded (w : Wiring) (id : SessionId) : Affair :=
  { untouched with made := [(w, id)] }

end Affair

namespace Switchboard

open Standing

variable {sb : Switchboard} {id : SessionId} {c c' : ControllerId} {k : StartId}
  {key : SessionKey} {m : Move} {w : Wiring} {selection : Selection}
  {result : Except Failure Unit}

/-! ## The affair of a start in its own moves -/

theorem mem_checks {place : Nat} (hplace : sb.jobs[place]? = some (.checkPorts c k key selection)) :
    .checkPorts c k key selection ∈ (sb.affair k).checks := by
  simp [affair, checks, List.mem_of_getElem? hplace, Job.isCheck, Job.start?]

theorem mem_verdicts {rest : List Task}
    (hwaiting : sb.waiting c = .checked k key selection result :: rest) :
    .checked k key selection result ∈ (sb.affair k).verdicts c := by
  simp [affair, verdicts, hwaiting, Task.isVerdict, Task.start?]

/-- A start is in flight when its check is under way or what came of it waits. -/
theorem mem_inFlight_iff :
    (key, k) ∈ sb.inFlight c ↔
      (∃ selection, .checkPorts c k key selection ∈ (sb.affair k).checks) ∨
        ∃ selection result, .checked k key selection result ∈ (sb.affair k).verdicts c := by
  rw [inFlight, List.mem_append]
  refine or_congr ?_ ?_
  · simp only [List.mem_filterMap, affair, List.mem_filter]
    constructor
    · rintro ⟨job, hjob, hclaim⟩
      cases job with
      | resolve | readPorts => cases hclaim
      | checkPorts c' k' key' selection =>
        simp only [Job.claim?, Option.ite_none_right_eq_some, Option.some.injEq,
          Prod.mk.injEq] at hclaim
        obtain ⟨rfl, rfl, rfl⟩ := hclaim
        exact ⟨selection, hjob, by simp [Job.start?]⟩
    · rintro ⟨selection, hjob, -⟩
      exact ⟨_, hjob, by simp [Job.claim?]⟩
  · simp only [List.mem_filterMap, affair, List.mem_filter]
    constructor
    · rintro ⟨task, htask, hclaim⟩
      cases task with
      | resolved | portsRead | activate | retire => cases hclaim
      | checked k' key' selection result =>
        cases hclaim
        exact ⟨selection, result, htask, by simp [Task.start?]⟩
    · rintro ⟨selection, result, htask, -⟩
      exact ⟨_, htask, rfl⟩

theorem startCount_start {ctl : Controller} (hctl : sb.controllers[c]? = some ctl)
    (pod : ResourcePath) (selection : Selection) :
    (sb.start c pod selection).startCount = sb.startCount + 1 := by
  cases htaken : sb.isTaken ctl ⟨pod, selection.container⟩ with
  | true =>
    rw [start_of_taken hctl htaken]
    rfl
  | false =>
    rw [start_of_free hctl htaken]
    rfl

theorem affair_notify (sb : Switchboard) (c : ControllerId) (k : StartId) (effect : Effect) :
    (sb.notify c (.start k) effect).affair k =
      { sb.affair k with told := (sb.affair k).told ++ [⟨c, .start k, effect⟩] } := by
  refine Affair.ext rfl rfl ?_ rfl
  simp [affair, toldStart, notify]

theorem affair_spawn (sb : Switchboard) (c : ControllerId) (k : StartId) (key : SessionKey)
    (selection : Selection) :
    (sb.spawn (.checkPorts c k key selection)).affair k =
      { sb.affair k with checks := (sb.affair k).checks ++ [.checkPorts c k key selection] } := by
  refine Affair.ext ?_ rfl rfl rfl
  simp [affair, checks, spawn, Job.isCheck, Job.start?]

/-- Under a free key the ports of a start are to be checked. -/
theorem affair_start_of_free {ctl : Controller} {pod : ResourcePath}
    (hctl : sb.controllers[c]? = some ctl)
    (hfree : sb.isTaken ctl ⟨pod, selection.container⟩ = false)
    (huntouched : sb.affair sb.startCount = .untouched) :
    (sb.start c pod selection).affair sb.startCount =
      .checking c sb.startCount ⟨pod, selection.container⟩ selection := by
  have hclaimed : ({ sb with startCount := sb.startCount + 1 }.control c fun ctl =>
      ctl.claim ⟨pod, selection.container⟩ sb.startCount).affair sb.startCount = .untouched :=
    (affair_control (f := fun ctl => ctl.claim _ _) fun _ => rfl).trans huntouched
  rw [start_of_free hctl hfree, affair_spawn, hclaimed]
  rfl

/-- A start is turned down, or its ports are to be checked. -/
theorem affair_start {ctl : Controller} (hctl : sb.controllers[c]? = some ctl)
    (huntouched : sb.affair sb.startCount = .untouched) (pod : ResourcePath)
    (selection : Selection) :
    (sb.start c pod selection).affair sb.startCount =
        .failed c sb.startCount (.duplicateSession ⟨pod, selection.container⟩) [] ∨
      (sb.start c pod selection).affair sb.startCount =
        .checking c sb.startCount ⟨pod, selection.container⟩ selection := by
  cases htaken : sb.isTaken ctl ⟨pod, selection.container⟩ with
  | true =>
    have hcounted : { sb with startCount := sb.startCount + 1 }.affair sb.startCount = .untouched :=
      huntouched
    rw [start_of_taken hctl htaken, affair_notify, hcounted]
    exact .inl rfl
  | false => exact .inr (affair_start_of_free hctl htaken huntouched)

/-- There was no other check of the start. -/
theorem checks_finishJob {place : Nat}
    (hplace : sb.jobs[place]? = some (.checkPorts c k key selection))
    (hone : (sb.affair k).checks = [.checkPorts c k key selection]) :
    ((sb.finishJob place).affair k).checks = [] := by
  obtain ⟨as, bs, hjobs, herased⟩ := exists_eraseIdx hplace
  rw [finishJob_of_check hplace]
  simp only [affair, checks, hjobs, List.filter_append] at hone
  change ((sb.jobs.eraseIdx place).filter Job.isCheck).filter _ = []
  rw [herased, List.filter_append, List.filter_append]
  simpa [Job.isCheck, Job.start?, List.append_eq_singleton_iff] using hone

/-- The check of a start ends, and what came of it is handed to the interface. -/
theorem affair_finishJob {place : Nat}
    (hplace : sb.jobs[place]? = some (.checkPorts c k key selection))
    (haffair : sb.affair k = .checking c k key selection) (hhears : sb.hears c = true) :
    (sb.finishJob place).affair k =
      .checked c k key selection (checkTunnels sb.surroundings.held selection.tunnels) := by
  have hmade := congrArg Affair.made haffair
  have htold := congrArg Affair.told haffair
  have hverdicts := congrArg Affair.verdicts haffair
  have hchecks := checks_finishJob hplace (congrArg Affair.checks haffair)
  rw [finishJob_of_check hplace] at hchecks ⊢
  refine Affair.ext hchecks (funext fun c' => ?_) htold hmade
  have hheld : { sb with jobs := sb.jobs.eraseIdx place }.hears c = true := hhears
  simp only [affair, verdicts_post _ c (.checked k key selection _) rfl, hheld, and_true,
    Affair.checked, Function.update_apply]
  split
  · rename_i hc
    subst hc
    have hnone : (sb.verdicts c').filter (fun task => task.start? = some k) = [] :=
      congrFun hverdicts c'
    have hsame : { sb with jobs := sb.jobs.eraseIdx place }.verdicts c' = sb.verdicts c' := rfl
    rw [List.filter_append, hsame, hnone]
    simp [Task.start?]
  · exact congrFun hverdicts c'

/-- Where the interface is gone, nothing comes of the check. -/
theorem affair_finishJob_of_deaf {place : Nat}
    (hplace : sb.jobs[place]? = some (.checkPorts c k key selection))
    (haffair : sb.affair k = .checking c k key selection) (hdeaf : sb.hears c = false) :
    (sb.finishJob place).affair k = .untouched := by
  have hmade := congrArg Affair.made haffair
  have htold := congrArg Affair.told haffair
  have hchecks := checks_finishJob hplace (congrArg Affair.checks haffair)
  rw [finishJob_of_check hplace] at hchecks ⊢
  refine Affair.ext hchecks (funext fun c' => ?_) htold hmade
  have hheld : { sb with jobs := sb.jobs.eraseIdx place }.hears c = false := hdeaf
  simp only [affair, verdicts_post _ c (.checked k key selection _) rfl, hheld,
    Bool.false_eq_true, and_false, if_false]
  exact congrFun (congrArg Affair.verdicts haffair) c'

/-- An interface that shuts down takes with it what waits there. -/
theorem affair_shut (sb : Switchboard) (c : ControllerId) (k : StartId) :
    (sb.step (.closeInterface c)).affair k =
      { sb.affair k with verdicts := Function.update (sb.affair k).verdicts c [] } := by
  refine Affair.ext rfl (funext fun c' => ?_) rfl rfl
  by_cases hc : c' = c
  · subst hc
    cases hctl : sb.controllers[c']? <;>
      simp [affair, verdicts, waiting, queue?, step, control, hctl, UiQueue.close]
  · have hother : (sb.step (.closeInterface c)).controllers[c']? = sb.controllers[c']? := by
      simp [step, control, Ne.symm hc]
    simp [affair, verdicts, waiting, queue?, hother, hc]

theorem affair_closeInterface (hnone : (sb.affair k).verdicts c = []) :
    (sb.step (.closeInterface c)).affair k = sb.affair k := by
  rw [affair_shut, ← hnone, Function.update_eq_self]

theorem affair_reportStart (sb : Switchboard) (c : ControllerId) (k : StartId)
    (result : Except Failure Unit) :
    (sb.reportStart c k result).affair k =
      { sb.affair k with
        told := (sb.affair k).told ++ match result with
          | .error e => [⟨c, .start k, .error e⟩]
          | .ok _ => [] } := by
  cases result with
  | error e => exact affair_notify sb c k _
  | ok _ => exact Affair.ext rfl rfl (List.append_nil _).symm rfl

/-- Nothing else about the start waits. -/
theorem affair_popTask_of_checked {rest : List Task}
    (hwaiting : sb.waiting c = .checked k key selection result :: rest)
    (haffair : sb.affair k = .checked c k key selection result) :
    (sb.popTask c).affair k = .untouched := by
  rw [affair_popTask hwaiting, haffair]
  refine Affair.ext rfl (funext fun c' => ?_) rfl rfl
  by_cases hc : c' = c <;> simp [Affair.checked, Affair.untouched, hc]

/-- When its interface applies what came of the check, the start is settled. -/
theorem affair_verdict_settled {rest : List Task}
    (hwaiting : sb.waiting c = .checked k key selection result :: rest)
    (haffair : sb.affair k = .checked c k key selection result) :
    ∃ made, (sb.step (.applyTask c)).affair k =
      .settled c k (sb.outcome c k key selection result) made := by
  obtain ⟨sb', hstep, hwithin⟩ := verdict_within hwaiting
  refine ⟨sb'.made k, ?_⟩
  rw [hstep, affair_reportStart, affair_release, hwithin.affair_eq,
    affair_popTask_of_checked hwaiting haffair]
  rfl

/-- When the check has failed, that is told. -/
theorem affair_verdict_error {e : Failure} {rest : List Task}
    (hwaiting : sb.waiting c = .checked k key selection (.error e) :: rest)
    (haffair : sb.affair k = .checked c k key selection (.error e)) :
    (sb.step (.applyTask c)).affair k = .failed c k e [] := by
  rw [step_of_checked_error hwaiting, affair_reportStart, affair_release,
    affair_popTask_of_checked hwaiting haffair]
  rfl

/-- The interface applies what came of the check, and the start is settled. -/
theorem affair_verdict (wf : sb.registry.WellFormed)
    (hrefuses : sb.surroundings.refusesEmpty = true) {rest : List Task}
    (hwaiting : sb.waiting c = .checked k key selection result :: rest)
    (haffair : sb.affair k = .checked c k key selection result)
    (hresult : ∀ e, result = .error e →
      Grounds sb.surroundings.plans key selection.tunnels e) :
    (∃ e made, (sb.step (.applyTask c)).affair k = .failed c k e made ∧
      Grounds sb.surroundings.plans key selection.tunnels e ∧
      ∀ w id, (w, id) ∈ made → (sb.step (.applyTask c)).Forsaken w id) ∨
    ∃ w id, (sb.step (.applyTask c)).affair k = .succeeded w id ∧ w.key = key ∧
      w.tunnels = selection.tunnels ∧ (sb.step (.applyTask c)).Launched c w id := by
  have hpop := affair_popTask_of_checked hwaiting haffair
  obtain ⟨result', sb', hstep, hcases⟩ := verdict_cases wf hrefuses hwaiting
  rw [hstep]
  have hafter := affair_reportStart (sb'.control c fun ctl => ctl.release key) c k result'
  rw [affair_release] at hafter
  rcases hcases with ⟨e, rfl, haside, hgrounds⟩ | ⟨w, id, hw, hkey, htunnels, hmakes, hend⟩
  · rw [haside.affair k, hpop] at hafter
    exact .inl ⟨e, [], hafter, hgrounds.elim (hresult e) fun h => h, by simp⟩
  · rw [hmakes.affair k, hpop, if_pos hw] at hafter
    rcases hend with ⟨rfl, hlaunched⟩ | ⟨rfl, hforsaken⟩
    · exact .inr ⟨w, id, hafter, hkey, htunnels, hlaunched⟩
    · refine .inl ⟨_, [(w, id)], hafter, .taken, fun w' id' hmem => ?_⟩
      cases List.mem_singleton.1 hmem
      exact hforsaken

/-! ## Starts to come -/

/-- Nothing has happened to the starts that are not asked for yet. -/
def Fresh (sb : Switchboard) : Prop :=
  ∀ k, sb.startCount ≤ k → sb.affair k = .untouched

theorem fresh_step (h : sb.Fresh) (wf : sb.registry.WellFormed) (m : Move) :
    (sb.step m).Fresh := by
  intro k hk
  have hbefore := h k (Nat.le_trans (startCount_step wf m) hk)
  rcases affair_step wf m k with hsame | hadvances
  · exact hsame.trans hbefore
  · cases hadvances with
    | @asked _ sb₁ c pod selection haside hstep hcount =>
      rw [hstep] at hk ⊢
      cases hctl : sb₁.controllers[c]? with
      | none => rw [start_of_none hctl, haside.affair, hbefore]
      | some ctl =>
        rw [startCount_start hctl, hcount] at hk
        exact absurd hk (Nat.not_succ_le_self k)
    | check hplace =>
      have hmem := mem_checks hplace
      rw [hbefore] at hmem
      cases hmem
    | verdict hwaiting =>
      have hmem := mem_verdicts hwaiting
      rw [hbefore] at hmem
      cases hmem
    | shut =>
      rw [affair_closeInterface (by rw [hbefore]; rfl), hbefore]

theorem fresh_run (surroundings : Surroundings) (controllers : List (String × Nat))
    (moves : List Move) : ((initial surroundings controllers).run moves).Fresh := by
  refine (sound_initial surroundings controllers).run_induction ?_ (fun sb hsound h m =>
    fresh_step h hsound.wellFormed m) moves
  intro k hk
  refine Affair.ext rfl (funext fun c => ?_) rfl rfl
  cases hctl : controllers[c]? <;>
    simp [affair, verdicts, waiting, queue?, initial, hctl, Affair.untouched]

end Switchboard

end PodTunnels
