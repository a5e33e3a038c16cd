import PodTunnels.Proofs.Activation
import PodTunnels.Proofs.Drive
import PodTunnels.Proofs.Shutdown

/-!
# Requested closes

A failure of a session is told when its retirement is applied; the retirement got it from the end of
the runner, and that from a failing transport or a failing start. A runner whose transport fails
looks whether the close was asked for, and then takes the failure for a normal end. But it does not
look when the time for readiness is over. So a session whose close was asked for, while the end of
its tunnels was still open, ends without an error unless that time runs out without a report, and in
that case it ends with an error.
-/

namespace PodTunnels

/-- How the tunnels come down is still open: the session has no runner, or one that waits for
readiness or relays. -/
def Life.Undecided (l : Life) : Prop :=
  ∀ r, l.runner = some r → r.phase = .waiting ∨ r.phase = .forwarding

namespace Switchboard

open Standing

variable {sb : Switchboard} {id : SessionId} {c : ControllerId} {m : Move} {st : Standing}

/-! ## Where failures come from -/

/-- A failure of a session is told when an interface applies the retirement that carries it, and in
no other way. -/
theorem told_turn (hturn : sb.Turn id m st) :
    (∃ later, st.told = sb.told id ++ later ∧
      ∀ notice ∈ later, notice.effect.failure? = none) ∨
    ∃ c rest e, sb.waiting c = .retire id (.failed e) :: rest ∧
      st.told = sb.told id ++ [⟨c, .session id, .error e⟩, ⟨c, .session id, .refresh⟩] := by
  have hsilent (htold : st.told = sb.told id) :
      ∃ later, st.told = sb.told id ++ later ∧
        ∀ notice ∈ later, notice.effect.failure? = none :=
    ⟨[], by simpa using htold, by simp⟩
  cases hturn with
  | rest | created | displaced | added | deleted | deletedSession | shut | closed | closedAll
  | stopped | launched | outlived | missed | ready | readyAlone | aborted | ended =>
    exact .inl (hsilent rfl)
  | activated => exact .inl ⟨_, rfl, by simp [Effect.failure?]⟩
  | @retired c rest outcome s hwaiting hs =>
    have htold := congrArg (· ++ ((endEffect s outcome).toList ++ [Effect.refresh]).map
      fun e => (⟨c, .session id, e⟩ : Notice)) (told_cleanUp ((sb.standing id).pop c))
    cases outcome with
    | failed e => exact .inr ⟨c, rest, e, hwaiting, htold⟩
    | success =>
      refine .inl ⟨_, htold, ?_⟩
      cases hclose : s.closeRequested <;> simp [endEffect, hclose, Effect.failure?]
  | endedAlone => exact .inl (hsilent (told_cleanUp _))

/-- A task that waits after a turn waited before, or the runner has handed it over just now. -/
theorem errand_turn {task : Task} (hturn : sb.Turn id m st) (hmem : task ∈ st.errands c) :
    task ∈ (sb.standing id).errands c ∨ task = .activate id ∨
      ∃ s r outcome, sb.session? id = some s ∧ s.runner = some r ∧ sb.Ends s r outcome ∧
        task = .retire id outcome := by
  have hpop {c' : ControllerId} (h : task ∈ ((sb.standing id).pop c').errands c) :
      task ∈ (sb.standing id).errands c := by
    by_cases hc : c = c'
    · subst hc
      exact List.mem_of_mem_tail (by simpa [Standing.pop] using h)
    · simpa [Standing.pop, hc] using h
  have hqueue {st₀ : Standing} {c' : ControllerId} {task' : Task}
      (h : task ∈ (st₀.queue c' task').errands c) : task ∈ st₀.errands c ∨ task = task' := by
    by_cases hc : c = c'
    · subst hc
      simpa [Standing.queue] using h
    · exact .inl (by simpa [Standing.queue, hc] using h)
  cases hturn with
  | rest | created | displaced | added | deleted | deletedSession | closed | closedAll | stopped
  | launched | readyAlone | aborted => exact .inl hmem
  | @shut c' =>
    by_cases hc : c = c'
    · subst hc
      simp [Standing.shut] at hmem
    · exact .inl (by simpa [Standing.shut, hc] using hmem)
  | activated | outlived | missed => exact .inl (hpop hmem)
  | retired =>
    rw [Standing.tell, errands_cleanUp] at hmem
    exact .inl (hpop hmem)
  | ready => exact (hqueue hmem).imp_right .inl
  | ended hs hrunner hends =>
    exact (hqueue hmem).imp_right fun h => .inr ⟨_, _, _, hs, hrunner, hends, h⟩
  | endedAlone =>
    rw [errands_cleanUp] at hmem
    exact .inl hmem

/-- A task that waits goes on waiting until the interface applies it or shuts down. -/
theorem mem_errands_turn {task : Task} (hturn : sb.Turn id m st)
    (hmem : task ∈ (sb.standing id).errands c) :
    st.hears c = false ∨ task ∈ st.errands c ∨
      m = .applyTask c ∧ ∃ rest, sb.waiting c = task :: rest := by
  have hpop {c' : ControllerId} {first : Task} {rest : List Task}
      (hwaiting : sb.waiting c' = first :: rest) (hid : first.session? = some id) :
      task ∈ ((sb.standing id).pop c').errands c ∨
        Move.applyTask c' = .applyTask c ∧ ∃ rest, sb.waiting c = task :: rest := by
    have herrands : (sb.standing id).errands c' = _ := errands_of_waiting hwaiting hid
    by_cases hc : c = c'
    · subst hc
      rw [herrands, List.mem_cons] at hmem
      rcases hmem with rfl | htail
      · exact .inr ⟨rfl, rest, hwaiting⟩
      · exact .inl (by simpa [Standing.pop, herrands] using htail)
    · exact .inl (by simpa [Standing.pop, hc] using hmem)
  have hqueue {st₀ : Standing} {c' : ControllerId} {task' : Task}
      (h : task ∈ st₀.errands c) : task ∈ (st₀.queue c' task').errands c := by
    by_cases hc : c = c'
    · subst hc
      simp [Standing.queue, h]
    · simpa [Standing.queue, hc] using h
  cases hturn with
  | rest | created | displaced | added | deleted | deletedSession | closed | closedAll | stopped
  | launched | readyAlone | aborted => exact .inr (.inl hmem)
  | @shut c' =>
    by_cases hc : c = c'
    · subst hc
      exact .inl (by simp [Standing.shut])
    · exact .inr (.inl (by simpa [Standing.shut, hc] using hmem))
  | activated hwaiting | outlived hwaiting | missed hwaiting => exact .inr (hpop hwaiting rfl)
  | retired hwaiting =>
    rw [Standing.tell, errands_cleanUp]
    exact .inr (hpop hwaiting rfl)
  | ready | ended => exact .inr (.inl (hqueue hmem))
  | endedAlone =>
    rw [errands_cleanUp]
    exact .inr (.inl hmem)

/-! ## A request to close -/

/-- A move asks for the close of a session from outside its runner. -/
inductive Requests (sb : Switchboard) (id : SessionId) : Move → Prop
  | stopped {m : Move} (hstops : sb.Stops id m) : Requests sb id m
  | all (hreg : id ∈ sb.registry.sessions) : Requests sb id .stopAll
  | byHand : Requests sb id (.close id)

/-- After a request to close, the session knows of it, and its runner and what waits and was told
about it are what they were. -/
theorem Requests.after_step {s : Session} (h : sb.Sound) (hrequests : sb.Requests id m)
    (hs : sb.session? id = some s) :
    ∃ s', (sb.step m).session? id = some s' ∧ s'.closeRequested = true ∧ s'.runner = s.runner ∧
      (sb.step m).errands id = sb.errands id ∧ (sb.step m).told id = sb.told id := by
  have hfrom {st : Standing} {f : Life → Life} (hst : st.session = some s)
      (herrands : st.errands = sb.errands id) (htold : st.told = sb.told id)
      (hstep : (sb.step m).standing id = st.live f) (hclose : ∀ l, (f l).closeRequested = true)
      (hrunner : ∀ l, (f l).runner = l.runner) :
      ∃ s', (sb.step m).session? id = some s' ∧ s'.closeRequested = true ∧ s'.runner = s.runner ∧
        (sb.step m).errands id = sb.errands id ∧ (sb.step m).told id = sb.told id := by
    have hs' : (sb.step m).session? id = some (s.live f) :=
      (congrArg Standing.session hstep).trans (live_session hst f)
    exact ⟨s.live f, hs', hclose _, hrunner _, (congrArg Standing.errands hstep).trans herrands,
      (congrArg Standing.told hstep).trans htold⟩
  cases hrequests with
  | stopped hstops =>
    have hquit := hstops.standing_step h
    rw [quit_eq] at hquit
    exact hfrom (register_session (session_standing hs) false) rfl rfl hquit (fun _ => rfl) fun _ => rfl
  | all hreg =>
    have hclosed := standing_foldl_closeSession sb id sb.registry.sessions
    rw [if_pos hreg] at hclosed
    exact hfrom (session_standing hs) rfl rfl hclosed (fun _ => rfl) fun _ => rfl
  | byHand =>
    have hclosed := standing_closeSession sb id id
    rw [if_pos rfl] at hclosed
    exact hfrom (session_standing hs) rfl rfl hclosed (fun _ => rfl) fun _ => rfl

/-! ## The end of the time for readiness -/

/-- The runner of a session finds its time for readiness over, and no report. -/
def lapsesBy (sb : Switchboard) (id : SessionId) : Move → Bool
  | .stepRunner id' =>
    id' = id && (sb.session? id).any fun s => s.runner.any fun r =>
      r.phase = .waiting && (sb.readiness s.transport).isNone && r.readyDeadline ≤ sb.clock
  | _ => false

/-- The time for readiness of a session runs out along a run. -/
def lapses (sb : Switchboard) (id : SessionId) : List Move → Bool
  | [] => false
  | m :: moves => sb.lapsesBy id m || (sb.step m).lapses id moves

theorem lapsesBy_of_late {s : Session} {r : Runner} (hs : sb.session? id = some s)
    (hrunner : s.runner = some r) (hphase : r.phase = .waiting)
    (hreadiness : sb.readiness s.transport = none) (hdue : r.readyDeadline ≤ sb.clock) :
    sb.lapsesBy id (.stepRunner id) = true := by
  simp [lapsesBy, hs, hrunner, hphase, hreadiness, hdue]

theorem late_of_lapsesBy (hlapses : sb.lapsesBy id m = true) :
    m = .stepRunner id ∧ ∃ s r, sb.session? id = some s ∧ s.runner = some r ∧
      r.phase = .waiting ∧ sb.readiness s.transport = none ∧ r.readyDeadline ≤ sb.clock := by
  cases m with
  | stepRunner id' =>
    simp only [lapsesBy, Bool.and_eq_true, decide_eq_true_eq, Option.any_eq_true,
      Option.isNone_iff_eq_none] at hlapses
    obtain ⟨rfl, s, hs, r, hrunner, ⟨hphase, hreadiness⟩, hdue⟩ := hlapses
    exact ⟨rfl, s, r, hs, hrunner, hphase, hreadiness, hdue⟩
  | _ => simp [lapsesBy] at hlapses

/-! ## A close that stays quiet -/

/-- The close of a session was asked for, and nothing about its end is a failure so far. -/
structure Hushed (sb : Switchboard) (id : SessionId) : Prop where
  requested : ∃ s, sb.session? id = some s ∧ s.closeRequested = true
  aborting : ∀ r outcome since, (sb.standing id).runner? = some r →
    r.phase = .aborting outcome since → outcome = .success
  retirement : ∀ c outcome, .retire id outcome ∈ sb.errands id c → outcome = .success
  told : ∀ notice ∈ sb.told id, notice.effect.failure? = none

/-- A runner whose session was asked to close ends well, unless it was about to end otherwise. -/
theorem Hushed.success_of_ends {s : Session} {r : Runner} {outcome : Outcome}
    (h : sb.Hushed id) (hs : sb.session? id = some s) (hrunner : s.runner = some r)
    (hends : sb.Ends s r outcome) : outcome = .success := by
  obtain ⟨s', hs', hrequested⟩ := h.requested
  cases hs.symm.trans hs'
  cases hends with
  | relaying hphase hending => simp [excuse, hrequested]
  | aborting hphase =>
    exact h.aborting r _ _ ((runner?_of_session (session_standing hs)).trans hrunner) hphase

/-- As long as the time for readiness does not run out, a requested close stays quiet. -/
theorem Hushed.step (h : sb.Hushed id) (hsound : sb.Sound)
    (hlapses : sb.lapsesBy id m = false) : (sb.step m).Hushed id := by
  have hturn := hsound.turn m id
  obtain ⟨s, hs, hrequested⟩ := h.requested
  obtain ⟨s', hs', -, hon⟩ := hsound.follows_step m id s hs
  refine ⟨⟨s', hs', hon.closeRequested hrequested⟩, ?_, ?_, ?_⟩
  · intro r' outcome since hrunner' hphase'
    cases drives_turn hturn with
    | rest hsame => exact h.aborting r' outcome since (hsame.symm.trans hrunner') hphase'
    | launched hidle hnext hphase =>
      cases hnext.symm.trans hrunner'
      cases hphase.symm.trans hphase'
    | ready _ _ _ hnext | ended _ _ _ hnext =>
      cases hnext.symm.trans hrunner'
      cases hphase'
    | failed hs₀ hrunner hphase hfails hnext =>
      cases hnext.symm.trans hrunner'
      cases hphase'
      cases hs.symm.trans hs₀
      cases hfails with
      | reported => simp [excuse, hrequested]
      | late hreadiness hdue =>
        cases hlapses.symm.trans (lapsesBy_of_late hs hrunner hphase hreadiness hdue)
  · intro c outcome hmem
    rcases errand_turn hturn hmem with hold | hactivate | ⟨s₀, r, outcome', hs₀, hr, hends, heq⟩
    · exact h.retirement c outcome hold
    · cases hactivate
    · cases heq
      exact h.success_of_ends hs₀ hr hends
  · intro notice hnotice
    change notice ∈ ((sb.step m).standing id).told at hnotice
    rcases told_turn hturn with ⟨later, htold, hlater⟩ | ⟨c, rest, e, hwaiting, -⟩
    · rw [htold] at hnotice
      exact (List.mem_append.1 hnotice).elim (h.told notice) (hlater notice)
    · have herrands := errands_of_waiting hwaiting rfl
      cases h.retirement c (.failed e) (by simp [herrands])

theorem Hushed.run {moves : List Move} (h : sb.Hushed id) (hsound : sb.Sound)
    (hlapses : sb.lapses id moves = false) : (sb.run moves).Hushed id := by
  induction moves generalizing sb with
  | nil => exact h
  | cons m moves ih =>
    obtain ⟨hnow, hlater⟩ := Bool.or_eq_false_iff.1 hlapses
    exact ih (h.step hsound hnow) (hsound.step m) hlater

/-- Before its runner has ended, no failure of a session is told. -/
theorem unblamed_step (hsound : sb.Sound)
    (h : (sb.standing id).isEnded = true ∨ ∀ notice ∈ sb.told id, notice.effect.failure? = none)
    (m : Move) :
    ((sb.step m).standing id).isEnded = true ∨
      ∀ notice ∈ (sb.step m).told id, notice.effect.failure? = none := by
  have hturn := hsound.turn m id
  have hstays (hended : (sb.standing id).isEnded = true) :
      ((sb.step m).standing id).isEnded = true := by
    simp only [Standing.isEnded, Option.any_eq_true, decide_eq_true_eq] at hended ⊢
    obtain ⟨s, hs, r, hr, hphase⟩ := hended
    obtain ⟨s', hs', -, hon⟩ := hsound.follows_step m id s hs
    obtain ⟨r', hr', -, hended, -⟩ := hon.runner r hr
    exact ⟨s', hs', r', hr', hended hphase⟩
  rcases h with hended | hsilent
  · exact .inl (hstays hended)
  · rcases told_turn hturn with ⟨later, htold, hlater⟩ | ⟨c, rest, e, hwaiting, -⟩
    · refine .inr fun notice hnotice => ?_
      change notice ∈ ((sb.step m).standing id).told at hnotice
      rw [htold] at hnotice
      exact (List.mem_append.1 hnotice).elim (hsilent notice) (hlater notice)
    · refine .inl (hstays ?_)
      obtain ⟨s, r, hs, hr, -, -, hactivate | ⟨hphase, -⟩⟩ :=
        exists_runner_of_waiting (hsound.session id) hwaiting rfl
      · cases hactivate
      · rw [isEnded_of_runner (session_standing hs) hr]
        exact decide_eq_true hphase

theorem unblamed_run (surroundings : Surroundings) (controllers : List (String × Nat))
    (moves : List Move) (id : SessionId) :
    (((initial surroundings controllers).run moves).standing id).isEnded = true ∨
      ∀ notice ∈ ((initial surroundings controllers).run moves).told id,
        notice.effect.failure? = none := by
  induction moves using List.reverseRecOn with
  | nil =>
    refine .inr fun notice hnotice => ?_
    cases hnotice
  | append_singleton moves m ih =>
    rw [run_concat]
    exact unblamed_step ((sound_initial surroundings controllers).run moves) ih m

/-- While the end of its tunnels is open, no retirement of a session waits. -/
theorem Sound.not_mem_retire {s : Session} {outcome : Outcome} (h : sb.Sound)
    (hs : sb.session? id = some s) (hundecided : s.toLife.Undecided) :
    .retire id outcome ∉ sb.errands id c := by
  intro hmem
  obtain ⟨s', r, hs', hr, -, -, hactivate | ⟨hended, -⟩⟩ := (h.session id).errand c _ hmem
  · cases hactivate
  · cases hs.symm.trans hs'
    rcases hundecided r hr with hphase | hphase <;> cases hended.symm.trans hphase

/-- A request to close that comes in time is quiet at first. -/
theorem Requests.hushed {s : Session} (h : sb.Sound) (hrequests : sb.Requests id m)
    (hs : sb.session? id = some s) (hundecided : s.toLife.Undecided)
    (hunblamed : (sb.standing id).isEnded = true ∨
      ∀ notice ∈ sb.told id, notice.effect.failure? = none) :
    (sb.step m).Hushed id := by
  obtain ⟨s', hs', hrequested, hrunner, herrands, htold⟩ := hrequests.after_step h hs
  refine ⟨⟨s', hs', hrequested⟩, ?_, ?_, ?_⟩
  · intro r outcome since hr hphase
    rw [runner?_of_session (session_standing hs'), hrunner] at hr
    rcases hundecided r hr with hopen | hopen <;> cases hopen.symm.trans hphase
  · intro c outcome hmem
    rw [herrands] at hmem
    exact absurd hmem (h.not_mem_retire hs hundecided)
  · rw [htold]
    refine hunblamed.resolve_left fun hended => ?_
    simp only [Standing.isEnded, Option.any_eq_true, decide_eq_true_eq] at hended
    obtain ⟨s₀, hs₀, r, hr, hphase⟩ := hended
    cases hs.symm.trans hs₀
    rcases hundecided r hr with hopen | hopen <;> cases hopen.symm.trans hphase

/-! ## A close that does not -/

/-- The time for readiness of a session has run out: its runner winds down for that, or it has
ended, and its interface, while it is there, has the failure in its queue or has told it. -/
def Overdue (sb : Switchboard) (id : SessionId) : Prop :=
  ∃ s r, sb.session? id = some s ∧ s.runner = some r ∧
    ((∃ since, r.phase = .aborting (.failed (notReady s.key r.readySeconds)) since) ∨
      r.phase = .ended ∧ (sb.hears r.controller = true →
        .retire id (.failed (notReady s.key r.readySeconds)) ∈ sb.errands id r.controller ∨
        ⟨r.controller, .session id, .error (notReady s.key r.readySeconds)⟩ ∈ sb.told id))

/-- An interface that comes to a retirement with a failure tells it. -/
theorem told_of_retirement {s : Session} {e : Failure} {rest : List Task}
    (hwaiting : sb.waiting c = .retire id (.failed e) :: rest) (hs : sb.session? id = some s) :
    ⟨c, .session id, .error e⟩ ∈ (sb.step (.applyTask c)).told id := by
  have hsome : (sb.popTask c).session? id = some s := hs
  rw [step, applyTask_of_cons hwaiting]
  simp [perform, retire, hsome, endEffect, told, notify]

theorem mem_told_turn {notice : Notice} (hturn : sb.Turn id m st) (hmem : notice ∈ sb.told id) :
    notice ∈ st.told := by
  rcases told_turn hturn with ⟨later, htold, -⟩ | ⟨c, rest, e, -, htold⟩ <;>
    exact htold ▸ List.mem_append_left _ hmem

theorem Overdue.step (h : sb.Overdue id) (hsound : sb.Sound) (m : Move) :
    (sb.step m).Overdue id := by
  obtain ⟨s, r, hs, hrunner, hcourse⟩ := h
  have hturn := hsound.turn m id
  obtain ⟨s', hs', hwiring, -⟩ := hsound.follows_step m id s hs
  have hkey : s'.key = s.key := congrArg Wiring.key hwiring
  have hbefore : (sb.standing id).runner? = some r :=
    (runner?_of_session (session_standing hs)).trans hrunner
  have hafter : ((sb.step m).standing id).runner? = s'.runner :=
    runner?_of_session (session_standing hs')
  rw [Overdue]
  rcases hcourse with ⟨since, hphase⟩ | ⟨hphase, htell⟩
  · cases drives_turn hturn with
    | rest hsame =>
      refine ⟨s', r, hs', hafter.symm.trans (hsame.trans hbefore), .inl ⟨since, ?_⟩⟩
      rw [hkey, hphase]
    | launched hidle => cases hbefore.symm.trans hidle
    | ready hs₀ hr₀ hwaits | failed hs₀ hr₀ hwaits =>
      cases hs.symm.trans hs₀
      cases hrunner.symm.trans hr₀
      cases hphase.symm.trans hwaits
    | ended hs₀ hr₀ hends hnext hdue =>
      cases hs.symm.trans hs₀
      cases hrunner.symm.trans hr₀
      refine ⟨s', _, hs', hafter.symm.trans hnext, .inr ⟨rfl, fun hhears => .inl ?_⟩⟩
      have hqueued := hdue (hears_turn hturn hhears)
      cases hends with
      | relaying hrelays => cases hphase.symm.trans hrelays
      | aborting haborts =>
        cases hphase.symm.trans haborts
        rw [hkey]
        exact hqueued
  · cases drives_turn hturn with
    | rest hsame =>
      refine ⟨s', r, hs', hafter.symm.trans (hsame.trans hbefore), .inr ⟨hphase, fun hhears => ?_⟩⟩
      rw [hkey]
      rcases htell (hears_turn hturn hhears) with hqueued | htold
      · rcases mem_errands_turn hturn hqueued with hdeaf | hstays | ⟨rfl, rest, hwaiting⟩
        · cases hdeaf.symm.trans hhears
        · exact .inl hstays
        · exact .inr (told_of_retirement hwaiting hs)
      · exact .inr (mem_told_turn hturn htold)
    | launched hidle => cases hbefore.symm.trans hidle
    | ready hs₀ hr₀ hwaits | failed hs₀ hr₀ hwaits =>
      cases hs.symm.trans hs₀
      cases hrunner.symm.trans hr₀
      cases hphase.symm.trans hwaits
    | ended hs₀ hr₀ hends =>
      cases hs.symm.trans hs₀
      cases hrunner.symm.trans hr₀
      exact absurd hphase hends.phase_ne_ended

theorem Overdue.run (h : sb.Overdue id) (hsound : sb.Sound) (moves : List Move) :
    (sb.run moves).Overdue id := by
  induction moves generalizing sb with
  | nil => exact h
  | cons m moves ih => exact ih (h.step hsound m) (hsound.step m)

/-- A runner that gives a start up winds down. -/
theorem exists_standing_runnerAbort (sb : Switchboard) (id : SessionId) (outcome : Outcome) :
    ∃ alarm, (sb.runnerAbort id outcome).standing id = (sb.standing id).live fun l =>
      (l.requestClose.enter (.aborting outcome sb.clock)).setAlarm alarm := by
  refine ⟨((sb.closeSession id).live id fun l => l.enter (.aborting outcome sb.clock)).alarms, ?_⟩
  rw [runnerAbort, standing_setAlarm, if_pos rfl, standing_live, if_pos rfl,
    standing_closeSession, if_pos rfl, live_live, live_live]

/-- A runner that finds its time for readiness over winds down for that, whether a close was asked
for or not. -/
theorem overdue_of_lapsesBy (hlapses : sb.lapsesBy id m = true) : (sb.step m).Overdue id := by
  obtain ⟨rfl, s, r, hs, hrunner, hphase, hreadiness, hdue⟩ := late_of_lapsesBy hlapses
  let failure := notReady s.key r.readySeconds
  have hstep : sb.stepRunner id =
      (sb.wire s.transport Transport.stopAwaiting).runnerAbort id (.failed failure) := by
    simp [stepRunner, stepRunner?, hs, hrunner, hphase, hreadiness, hdue, failure]
  obtain ⟨alarm, hst⟩ := exists_standing_runnerAbort
    (sb.wire s.transport Transport.stopAwaiting) id (.failed failure)
  rw [← hstep, standing_wire] at hst
  refine ⟨_, { r with phase := .aborting (.failed failure) sb.clock, alarm },
    (congrArg Standing.session hst).trans (live_session (session_standing hs) _), ?_,
    .inl ⟨sb.clock, rfl⟩⟩
  simp [Life.requestClose, Life.enter, Life.setAlarm, hrunner, wire]

theorem overdue_of_lapses {moves : List Move} (hsound : sb.Sound)
    (hlapses : sb.lapses id moves = true) : (sb.run moves).Overdue id := by
  induction moves generalizing sb with
  | nil => cases hlapses
  | cons m moves ih =>
    rcases Bool.or_eq_true_iff.1 hlapses with hnow | hlater
    · exact (overdue_of_lapsesBy hnow).run (hsound.step m) moves
    · exact ih (hsound.step m) hlater

/-- Requested closes. When the close of a session is asked for while the end of its tunnels is open,
no failure is ever told about it, unless its time for readiness runs out without a report: in that
case, once its runner has ended and its living interface is drained, that failure was told. -/
theorem requested_close_quiet_iff (surroundings : Surroundings)
    (controllers : List (String × Nat)) (before after : List Move) (m : Move) (id : SessionId)
    (s : Session) (hs : ((initial surroundings controllers).run before).session? id = some s)
    (hundecided : s.toLife.Undecided)
    (hrequests : ((initial surroundings controllers).run before).Requests id m) :
    (((initial surroundings controllers).run (before ++ [m])).lapses id after = false →
      ∀ notice ∈ ((initial surroundings controllers).run (before ++ m :: after)).told id,
        notice.effect.failure? = none) ∧
    (((initial surroundings controllers).run (before ++ [m])).lapses id after = true →
      ∀ s' r, ((initial surroundings controllers).run (before ++ m :: after)).session? id =
          some s' → s'.runner = some r → r.phase = .ended →
        ((initial surroundings controllers).run (before ++ m :: after)).hears r.controller =
          true →
        ((initial surroundings controllers).run (before ++ m :: after)).waiting r.controller =
          [] →
        ⟨r.controller, .session id, .error (notReady s.key r.readySeconds)⟩ ∈
          ((initial surroundings controllers).run (before ++ m :: after)).told id) := by
  have hsound := (sound_initial surroundings controllers).run before
  have hsound' := hsound.step m
  have hhushed := hrequests.hushed hsound hs hundecided
    (unblamed_run surroundings controllers before id)
  rw [run_concat, List.append_cons, run_append, run_concat]
  refine ⟨fun hintime => (hhushed.run hsound' hintime).told, ?_⟩
  intro hlapses s' r hs' hrunner hended hhears hdrained
  obtain ⟨s₀, r₀, hs₀, hrunner₀, ⟨since, haborts⟩ | ⟨-, htell⟩⟩ :=
    overdue_of_lapses hsound' hlapses
  · cases hs'.symm.trans hs₀
    cases hrunner.symm.trans hrunner₀
    cases hended.symm.trans haborts
  · cases hs'.symm.trans hs₀
    cases hrunner.symm.trans hrunner₀
    obtain ⟨s₁, hs₁, hwiring, -⟩ := hsound.follows_run (m :: after) id s hs
    cases hs'.symm.trans hs₁
    have hkey : s'.key = s.key := congrArg Wiring.key hwiring
    rw [← hkey]
    refine (htell hhears).resolve_left fun hqueued => ?_
    simp [errands, hdrained] at hqueued

/-- Surroundings with a transport that reports its readiness when it likes. -/
def unready : Surroundings :=
  { cluster := .empty, plans := [{ ready := .onSignal }] }

/-- A start whose runner waits for readiness. -/
def waitingStart : List Move :=
  [.start 0 webPod webSelection, .finishJob 0, .applyTask 0]

/-- A session that is stopped while it waits for readiness, and whose transport then fails, ends
without an error. -/
theorem quiet_of_failed_readiness :
    ((initial unready [("127.0.0.1", 30)]).run waitingStart).Requests 0 (.stop webKey) ∧
      ∀ notice ∈ ((initial unready [("127.0.0.1", 30)]).run (waitingStart ++ .stop webKey ::
          [.signalReady 0 (.failed (.transport "killed")), .stepRunner 0, .stepRunner 0,
            .applyTask 0])).told 0,
        notice.effect.failure? = none := by
  have hrequests : ((initial unready [("127.0.0.1", 30)]).run waitingStart).Requests 0
      (.stop webKey) := .stopped (.key (by decide))
  refine ⟨hrequests, (requested_close_quiet_iff unready [("127.0.0.1", 30)] waitingStart _
    (.stop webKey) 0 _ rfl ?_ hrequests).1 (by decide)⟩
  intro r hr
  cases hr
  exact .inl rfl

/-- A session that is stopped while it waits for readiness, and whose time runs out after that,
ends with an error. -/
theorem stopped_session_blamed :
    ((initial unready [("127.0.0.1", 30)]).run waitingStart).Requests 0 (.stop webKey) ∧
      (∀ s, ((initial unready [("127.0.0.1", 30)]).run waitingStart).session? 0 = some s →
        s.toLife.Undecided) ∧
      ((initial unready [("127.0.0.1", 30)]).run (waitingStart ++ .stop webKey ::
          [.elapse 30000, .stepRunner 0, .stepRunner 0, .applyTask 0])).told 0 =
        [⟨0, .session 0, .error (notReady webKey 30)⟩, ⟨0, .session 0, .refresh⟩] := by
  refine ⟨.stopped (.key (by decide)), ?_, by decide⟩
  rintro s hs r hr
  cases hs
  cases hr
  exact .inl rfl

end Switchboard

end PodTunnels
