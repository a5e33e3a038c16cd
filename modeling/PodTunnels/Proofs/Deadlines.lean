import PodTunnels.Proofs.Instant
import PodTunnels.Proofs.RequestedClose
import PodTunnels.Switchboard.Schedule
import Mathlib.Data.List.Infix

/-!
# Deadlines

A runner that waits for readiness acts at the end of its time for it at the latest, and one that
winds down a failed start acts after some grace. Where time does not go on before a runner has done
what it can do, a start cannot hang: by the end of the grace the runner relays or has ended.

If it relays, readiness was reported in time, and the activation was carried out or waits for the
interface. If it has ended, its retirement was carried out or waits there. So an interface that is
drained by then finds no session that is still starting, and none that kept its key without having
been ready in time.
-/

namespace PodTunnels

/-- A runner is not behind its time: it waits for readiness within the time for that, and winds down
only a start that failed within it. -/
def Runner.OnTime (r : Runner) (now : Nat) : Prop :=
  match r.phase with
  | .waiting => now ≤ r.readyDeadline
  | .aborting _ since => since ≤ r.readyDeadline
  | .forwarding | .ended => True

namespace Standing

variable {st : Standing} {id : SessionId} {r : Runner}

/-- A session whose tunnels forward for an interface that takes tasks is past its start, or its
activation waits there. -/
def Announces (st : Standing) (id : SessionId) : Prop :=
  ∀ s r, st.session = some s → s.runner = some r → r.phase = .forwarding →
    st.hears r.controller = true → s.state = .starting → .activate id ∈ st.errands r.controller

theorem Announces.live (h : st.Announces id) {f : Life → Life}
    (hrunner : ∀ l, (f l).runner = l.runner) (hstate : ∀ l, (f l).state = l.state) :
    (st.live f).Announces id := by
  intro s' r hs' hr
  obtain ⟨s, hs, rfl⟩ := exists_of_live hs'
  simp only [Session.live, hrunner, hstate] at hr ⊢
  exact h s r hs hr

/-- Where the runner does not relay, nothing is to be announced. -/
theorem Announces.of_runner (hrunner : st.runner? = some r) (hphase : r.phase ≠ .forwarding) :
    st.Announces id := by
  intro s r' hs hr' hforwards
  cases hrunner.symm.trans ((runner?_of_session hs).trans hr')
  exact absurd hforwards hphase

/-- Where the session is past its start, neither. -/
theorem Announces.of_state (h : ∀ s, st.session = some s → s.state ≠ .starting) :
    st.Announces id :=
  fun s _ hs _ _ _ hstate => absurd hstate (h s hs)

theorem Announces.shut (h : st.Announces id) (c : ControllerId) : (st.shut c).Announces id := by
  intro s r hs hr hphase hhears hstate
  have hc : r.controller ≠ c := by
    rintro rfl
    simp [Standing.shut] at hhears
  simp only [Standing.shut, Function.update_of_ne hc] at hhears ⊢
  exact h s r hs hr hphase hhears hstate

end Standing

namespace Switchboard

open Standing

variable {sb : Switchboard} {id : SessionId} {c : ControllerId} {m : Move} {s : Session}
  {r : Runner} {st : Standing} {moves : List Move} {t : TransportId} {deadline : Nat}

/-! ## Activations that are owed -/

/-- The activation of a session whose tunnels forward is handed over with their readiness, and is
not lost before the session is past its start. -/
theorem announces_turn (hsound : (sb.standing id).Sound id) (h : (sb.standing id).Announces id)
    (hturn : sb.Turn id m st) : st.Announces id := by
  cases hturn with
  | rest | displaced | added | deleted | deletedSession => exact h
  | created hnone hbirth =>
    intro s r hs hr hphase
    cases hs
    cases (hbirth.phase hr).symm.trans hphase
  | shut => exact h.shut _
  | closed | closedAll => exact h.live (fun _ => rfl) fun _ => rfl
  | stopped =>
    have hdown : ((sb.standing id).register false).Announces id := h
    rw [quit_eq]
    exact hdown.live (fun _ => rfl) fun _ => rfl
  | @launched s r hs hrunner hphase =>
    exact .of_runner (runner?_live_of_session (session_standing hs)) (by simp [hphase])
  | @activated c =>
    have hactive : (((sb.standing id).pop c).live Life.activate).Announces id := by
      refine .of_state fun s' hs' => ?_
      obtain ⟨s₀, -, rfl⟩ := exists_of_live hs'
      simp [Session.live, Life.activate]
    exact hactive
  | outlived hwaiting hlate => exact .of_state hlate
  | @retired c rest outcome s hwaiting hs =>
    -- The runner of a session that is to be retired has ended.
    obtain ⟨s', r, hs', hrunner, -, -, hactivate | ⟨hended, -⟩⟩ :=
      exists_runner_of_waiting hsound hwaiting rfl
    · cases hactivate
    · have hsession : ((sb.standing id).pop c).session = some s' := hs'
      have hnext : ((sb.standing id).pop c).cleanUp.runner? = some r :=
        (runner?_cleanUp _).trans ((runner?_of_session hsession).trans hrunner)
      have hclean : ((sb.standing id).pop c).cleanUp.Announces id :=
        .of_runner hnext (by simp [hended])
      exact hclean
  | missed hwaiting hnone => exact .of_state fun s' hs' => by cases hnone.symm.trans hs'
  | @ready s r hs hrunner hphase hready hhears =>
    intro s' r' hs' hr' _ _ _
    obtain ⟨s₀, hs₀, rfl⟩ := exists_of_live hs'
    cases hs.symm.trans hs₀
    have hctl : r'.controller = r.controller := by
      simp only [Session.live, Life.enter, hrunner, Option.map_some, Option.some.injEq] at hr'
      rw [← hr']
    simp [Standing.queue, hctl]
  | @readyAlone s r hs hrunner hphase hready hdeaf =>
    rw [live_live]
    intro s' r' hs' _ _ _ hstate
    obtain ⟨s₀, hs₀, rfl⟩ := exists_of_live hs'
    simp only [Session.live] at hstate
    split at hstate
    · cases hstate
    · contradiction
  | @aborted s r outcome hs hrunner hphase hfails =>
    rw [live_live, live_live]
    refine .of_runner (r := { r with phase := .aborting outcome sb.clock, alarm := sb.alarms })
      ((runner?_live_of_session (session_standing hs)).trans ?_) (by simp)
    simp [Life.enter, Life.setAlarm, Life.requestClose, hrunner]
  | @ended s r outcome hs hrunner hends hhears =>
    refine .of_runner (r := { r with phase := .ended }) ((runner?_live_of_session
      (f := fun l => (l.enter .ended).terminate) (session_standing hs)).trans ?_) (by simp)
    simp [Life.enter, Life.terminate, hrunner]
  | @endedAlone s r outcome hs hrunner hends hdeaf =>
    refine .of_runner (r := { r with phase := .ended }) ((runner?_cleanUp _).trans
      ((runner?_live_of_session (session_standing hs)).trans ?_)) (by simp)
    simp [Life.enter, Life.terminate, hrunner]

theorem announces_run (surroundings : Surroundings) (controllers : List (String × Nat))
    (moves : List Move) (id : SessionId) :
    (((initial surroundings controllers).run moves).standing id).Announces id := by
  refine (sound_initial surroundings controllers).run_induction ?_ (fun sb hsound h m =>
    announces_turn (hsound.session id) h (hsound.turn m id)) moves
  exact .of_state fun s hs => by cases hs

/-! ## Time and deadlines -/

/-- The runner of a session would take a step after some delay, if nothing else happened. -/
def wouldStep (sb : Switchboard) (id : SessionId) (delay : Nat) : Bool :=
  ({ sb with clock := sb.clock + delay }.stepRunner? id).isSome

/-- A move lets time pass although the runner of a session would take a step before that is over. -/
def Oversleeps (sb : Switchboard) (id : SessionId) : Move → Prop
  | .elapse duration => ∃ delay < duration, sb.wouldStep id delay = true
  | _ => False

/-- Along a run, the runner of a session does what it can do before time goes on. -/
def Punctual (sb : Switchboard) (id : SessionId) : List Move → Prop
  | [] => True
  | m :: moves => ¬ sb.Oversleeps id m ∧ (sb.step m).Punctual id moves

theorem punctual_concat_iff :
    sb.Punctual id (moves ++ [m]) ↔ sb.Punctual id moves ∧ ¬ (sb.run moves).Oversleeps id m := by
  induction moves generalizing sb with
  | nil => simp [Punctual, run]
  | cons first moves ih =>
    show _ ∧ (sb.step first).Punctual id (moves ++ [m]) ↔ _
    rw [ih, ← and_assoc]
    rfl

/-- A runner that waits for readiness does not wait on when its time for that is over. -/
theorem isSome_stepRunner?_of_due (hs : sb.session? id = some s) (hrunner : s.runner = some r)
    (hphase : r.phase = .waiting) (hdue : r.readyDeadline ≤ sb.clock) :
    (sb.stepRunner? id).isSome = true := by
  cases hready : sb.readiness s.transport with
  | none => simp [stepRunner?, hs, hrunner, hphase, hready, hdue]
  | some report => cases report <;> simp [stepRunner?, hs, hrunner, hphase, hready]

/-- A runner that is not signalled takes no step before its deadline. -/
theorem stepRunner?_eq_none (hquiet : sb.isSignalled id = false)
    (hearly : ∀ t, sb.deadline? id = some t → sb.clock < t) : sb.stepRunner? id = none := by
  cases hs : sb.session? id with
  | none => simp [stepRunner?, hs]
  | some s =>
    cases hrunner : s.runner with
    | none => simp [stepRunner?, hs, hrunner]
    | some r =>
      simp only [isSignalled, hs, hrunner, Option.any_some] at hquiet
      simp only [deadline?, hs, hrunner, bind, Option.bind] at hearly
      cases hphase : r.phase with
      | waiting =>
        simp only [hphase, Option.isSome_eq_false_iff, Option.isNone_iff_eq_none] at hquiet
        have hnot : ¬ r.readyDeadline ≤ sb.clock := Nat.not_le.2 (hearly _ (by rw [hphase]))
        simp [stepRunner?, hs, hrunner, hphase, hquiet, hnot]
      | forwarding =>
        simp only [hphase, Option.isSome_eq_false_iff, Option.isNone_iff_eq_none] at hquiet
        simp [stepRunner?, hs, hrunner, hphase, hquiet]
      | aborting outcome since =>
        simp only [hphase, Option.isSome_eq_false_iff, Option.isNone_iff_eq_none] at hquiet
        have hnot : ¬ since + Runner.closeGrace ≤ sb.clock :=
          Nat.not_le.2 (hearly _ (by rw [hphase]))
        simp [stepRunner?, hs, hrunner, hphase, hquiet, hnot]
      | ended => simp [stepRunner?, hs, hrunner, hphase]

/-- So time may pass up to that. -/
theorem not_oversleeps {duration : Nat} (hquiet : sb.isSignalled id = false)
    (hintime : ∀ t, sb.deadline? id = some t → sb.clock + duration ≤ t) :
    ¬ sb.Oversleeps id (.elapse duration) := by
  rintro ⟨delay, hdelay, hsteps⟩
  have hidle : { sb with clock := sb.clock + delay }.stepRunner? id = none := by
    refine stepRunner?_eq_none hquiet fun t ht => ?_
    have hle : sb.clock + duration ≤ t := hintime t ht
    show sb.clock + delay < t
    omega
  simp [wouldStep, hidle] at hsteps

/-- The runner of a session is not behind its time. -/
def OnTime (sb : Switchboard) (id : SessionId) : Prop :=
  ∀ r, (sb.standing id).runner? = some r → r.OnTime sb.clock

theorem OnTime.waiting (h : sb.OnTime id) (hrunner : (sb.standing id).runner? = some r)
    (hphase : r.phase = .waiting) : sb.clock ≤ r.readyDeadline := by
  simpa [Runner.OnTime, hphase] using h r hrunner

/-- Time passes, but not over a deadline. -/
theorem OnTime.elapse {duration : Nat} (h : sb.OnTime id)
    (hpunctual : ¬ sb.Oversleeps id (.elapse duration)) :
    (sb.step (.elapse duration)).OnTime id := by
  intro r hr
  have hbefore : (sb.standing id).runner? = some r := hr
  have hontime := h r hbefore
  unfold Runner.OnTime at hontime ⊢
  split at hontime
  · rename_i hphase
    obtain ⟨s, hs, hrunner⟩ := Option.bind_eq_some_iff.1 hbefore
    by_contra hlate
    -- At its deadline the runner would have taken a step.
    have hclock : sb.clock + (r.readyDeadline - sb.clock) = r.readyDeadline := by omega
    refine hpunctual ⟨r.readyDeadline - sb.clock, ?_, ?_⟩
    · simp only [step] at hlate
      omega
    · exact isSome_stepRunner?_of_due hs hrunner hphase hclock.ge
  · exact hontime
  · trivial
  · trivial

/-- No move leaves a runner behind its time, unless time passes that the runner should have used. -/
theorem OnTime.step (h : sb.OnTime id) (hsound : sb.Sound) (hpunctual : ¬ sb.Oversleeps id m) :
    (sb.step m).OnTime id := by
  by_cases helapse : ∃ duration, m = .elapse duration
  · obtain ⟨duration, rfl⟩ := helapse
    exact h.elapse hpunctual
  · have hinstant := instant_step hsound.wellFormed fun duration hm => helapse ⟨duration, hm⟩
    intro r' hr'
    rw [hinstant.clock]
    cases drives_turn (hsound.turn m id) with
    | rest hsame => exact h r' (hsame.symm.trans hr')
    | launched hidle hnext hphase =>
      cases hnext.symm.trans hr'
      -- A runner that is new was launched at this time.
      have hnow : r'.launchedAt = sb.clock := by
        rcases hinstant.launched id with hsame | hnow
        · rw [launchTime?_of_runner hr', launchTime?_eq_none hidle] at hsame
          cases hsame
        · exact Option.some.inj ((launchTime?_of_runner hr').symm.trans hnow)
      simp only [Runner.OnTime, hphase, Runner.readyDeadline, hnow]
      omega
    | ready hs hrunner hphase hnext =>
      cases hnext.symm.trans hr'
      trivial
    | failed hs hrunner hphase hfails hnext =>
      have hintime := h.waiting ((runner?_of_session (session_standing hs)).trans hrunner) hphase
      cases hnext.symm.trans hr'
      exact hintime
    | ended hs hrunner hends hnext =>
      cases hnext.symm.trans hr'
      trivial

theorem onTime_run (surroundings : Surroundings) (controllers : List (String × Nat))
    (hpunctual : (initial surroundings controllers).Punctual id moves) :
    ((initial surroundings controllers).run moves).OnTime id := by
  induction moves using List.reverseRecOn with
  | nil =>
    intro r hr
    cases hr
  | append_singleton moves m ih =>
    rw [punctual_concat_iff] at hpunctual
    rw [run_concat]
    exact (ih hpunctual.1).step ((sound_initial surroundings controllers).run moves) hpunctual.2

/-! ## Readiness in time -/

/-- At some time of a run, up to a deadline, a transport has reported readiness. -/
def ReadyBy (sb : Switchboard) (t : TransportId) (deadline : Nat) (moves : List Move) : Prop :=
  ∃ before, before <+: moves ∧ (sb.run before).clock ≤ deadline ∧
    (sb.run before).readiness t = some .success

theorem ReadyBy.concat (h : sb.ReadyBy t deadline moves) (m : Move) :
    sb.ReadyBy t deadline (moves ++ [m]) := by
  obtain ⟨before, hbefore, hready⟩ := h
  exact ⟨before, hbefore.trans (List.prefix_append ..), hready⟩

/-- A runner that relays saw readiness in time. -/
theorem readyBy_of_forwarding (surroundings : Surroundings) (controllers : List (String × Nat))
    (hpunctual : (initial surroundings controllers).Punctual id moves)
    (hs : ((initial surroundings controllers).run moves).session? id = some s)
    (hrunner : s.runner = some r) (hphase : r.phase = .forwarding) :
    (initial surroundings controllers).ReadyBy s.transport r.readyDeadline moves := by
  induction moves using List.reverseRecOn generalizing s r with
  | nil => cases hs
  | append_singleton moves m ih =>
    rw [punctual_concat_iff] at hpunctual
    rw [run_concat] at hs
    have hsound := (sound_initial surroundings controllers).run moves
    have hafter := (runner?_of_session (session_standing hs)).trans hrunner
    cases drives_turn (hsound.turn m id) with
    | rest hsame =>
      obtain ⟨s₀, hs₀, hr₀⟩ := Option.bind_eq_some_iff.1 (hsame.symm.trans hafter)
      obtain ⟨s', hs', hwiring, -⟩ := hsound.follows_step m id s₀ hs₀
      cases (session_standing hs).symm.trans hs'
      rw [hwiring]
      exact (ih hpunctual.1 hs₀ hr₀ hphase).concat m
    | launched hidle hnext hwaiting =>
      cases hnext.symm.trans hafter
      cases hwaiting.symm.trans hphase
    | @ready s₀ r₀ hs₀ hrunner₀ hwaiting hnext hready =>
      obtain ⟨s', hs', hwiring, -⟩ := hsound.follows_step _ id s₀ hs₀
      cases (session_standing hs).symm.trans hs'
      cases hnext.symm.trans hafter
      have hintime := (onTime_run surroundings controllers hpunctual.1).waiting
        ((runner?_of_session (session_standing hs₀)).trans hrunner₀) hwaiting
      rw [hwiring]
      exact ⟨moves, List.prefix_append .., hintime, hready⟩
    | failed hs₀ hrunner₀ hwaiting hfails hnext | ended hs₀ hrunner₀ hends hnext =>
      cases hnext.symm.trans hafter
      cases hphase

/-! ## Starts that come to an end -/

/-- A runner that has nothing left to do once the grace after its deadline is over relays or has
ended. -/
theorem OnTime.forwards_or_ended (h : sb.OnTime id) (hs : sb.session? id = some s)
    (hrunner : s.runner = some r) (hidle : sb.stepRunner? id = none)
    (hlate : r.readyDeadline + Runner.closeGrace ≤ sb.clock) :
    r.phase = .forwarding ∨ r.phase = .ended := by
  have hr := (runner?_of_session (session_standing hs)).trans hrunner
  have hontime := h r hr
  cases hphase : r.phase with
  | waiting =>
    have hle := h.waiting hr hphase
    simp only [Runner.closeGrace] at hlate
    omega
  | forwarding => exact .inl rfl
  | aborting outcome since =>
    have hsince : since ≤ r.readyDeadline := by simpa [Runner.OnTime, hphase] using hontime
    have hdone : (sb.ending s.transport).isSome ∨ since + Runner.closeGrace ≤ sb.clock :=
      .inr (Nat.le_trans (Nat.add_le_add_right hsince _) hlate)
    simp only [stepRunner?, hs, hrunner, hphase, bind, Option.bind, if_pos hdone] at hidle
    cases hidle
  | ended => exact .inr rfl

/-- Starts do not hang. Let the runner of a session do what it can do before time goes on, and let
it have done what it can do now. Once the time for readiness and the grace are over and the queue of
its living interface is drained, the session is not starting any more. If readiness was not reported
in time, it is terminated and does not hold its key; only by hand could it have got back its
entry. -/
theorem start_decided_in_time (surroundings : Surroundings) (controllers : List (String × Nat))
    (moves : List Move) (id : SessionId) (s : Session) (r : Runner)
    (hpunctual : (initial surroundings controllers).Punctual id moves)
    (hs : ((initial surroundings controllers).run moves).session? id = some s)
    (hrunner : s.runner = some r)
    (hidle : ((initial surroundings controllers).run moves).stepRunner? id = none)
    (hhears : ((initial surroundings controllers).run moves).hears r.controller = true)
    (hdrained : ((initial surroundings controllers).run moves).waiting r.controller = [])
    (hlate : r.readyDeadline + Runner.closeGrace ≤
      ((initial surroundings controllers).run moves).clock) :
    s.state ≠ .starting ∧
      (¬ (initial surroundings controllers).ReadyBy s.transport r.readyDeadline moves →
        s.state = .terminated ∧
        ((initial surroundings controllers).run moves).registry.lookup s.key ≠ some id ∧
        (¬ (initial surroundings controllers).ReaddedByHand id moves →
          ((initial surroundings controllers).run moves).registry.entries.get? s.key ≠
            some id)) := by
  have hsound := (sound_initial surroundings controllers).run moves
  have hontime := onTime_run surroundings controllers hpunctual
  rcases hontime.forwards_or_ended hs hrunner hidle hlate with hforwards | hended
  · refine ⟨fun hstate => ?_, fun hunready => ?_⟩
    · have hannounced := announces_run surroundings controllers moves id s r
        (session_standing hs) hrunner hforwards hhears hstate
      simp [standing, errands, hdrained] at hannounced
    · exact absurd (readyBy_of_forwarding surroundings controllers hpunctual hs hrunner hforwards)
        hunready
  · have hretired := hsound.retired_of_drained hs hrunner hended hhears hdrained
    have hstate := (hsound.over_of_retired hs hretired).1
    refine ⟨by simp [hstate], fun _ => ⟨hstate, fun hlookup => ?_, fun hhand =>
      unregistered_of_retired hs hretired hhand⟩⟩
    have hlive := (Registry.lookup_eq_some_iff.1 hlookup).2
    rw [Registry.isLive_of_session? hs] at hlive
    simp [Life.isLive, SessionState.isLive, hstate] at hlive

/-- Surroundings with a transport that never reports readiness, and does not end when it is
closed. -/
def unresponsive : Surroundings :=
  { cluster := .empty, plans := [{ ready := .onSignal, close := .ignored }] }

/-- A start that hangs until its time and then the grace are over. -/
def hungStart : List Move :=
  waitingStart ++ [.elapse 30000, .stepRunner 0, .elapse 5000, .stepRunner 0, .applyTask 0]

/-- The session of the start that hangs is over then, and has given its key back. -/
theorem hung_start_over :
    ∃ s r, ((initial unresponsive [("127.0.0.1", 30)]).run hungStart).session? 0 = some s ∧
      s.runner = some r ∧ s.key = webKey ∧
      (initial unresponsive [("127.0.0.1", 30)]).Punctual 0 hungStart ∧
      ((initial unresponsive [("127.0.0.1", 30)]).run hungStart).stepRunner? 0 = none ∧
      ((initial unresponsive [("127.0.0.1", 30)]).run hungStart).hears r.controller = true ∧
      ((initial unresponsive [("127.0.0.1", 30)]).run hungStart).waiting r.controller = [] ∧
      r.readyDeadline + Runner.closeGrace =
        ((initial unresponsive [("127.0.0.1", 30)]).run hungStart).clock ∧
      ¬ (initial unresponsive [("127.0.0.1", 30)]).ReadyBy s.transport r.readyDeadline hungStart ∧
      s.state = .terminated ∧
      ((initial unresponsive [("127.0.0.1", 30)]).run hungStart).registry.entries.get? s.key ≠
        some 0 := by
  have hpunctual : (initial unresponsive [("127.0.0.1", 30)]).Punctual 0 hungStart := by
    refine ⟨nofun, nofun, nofun, not_oversleeps rfl ?_, nofun, not_oversleeps rfl ?_, nofun, nofun,
      trivial⟩
    · rintro t ⟨⟩
      decide
    · rintro t ⟨⟩
      decide
  have hhears : ((initial unresponsive [("127.0.0.1", 30)]).run hungStart).hears 0 = true := by
    decide
  have hsilent : ∀ before ∈ hungStart.inits,
      ((initial unresponsive [("127.0.0.1", 30)]).run before).readiness 0 ≠ some .success := by
    decide
  have hunready : ¬ (initial unresponsive [("127.0.0.1", 30)]).ReadyBy 0 30000 hungStart := by
    rintro ⟨before, hbefore, -, hready⟩
    exact hsilent before ((List.mem_inits _ _).2 hbefore) hready
  have hhand : ¬ (initial unresponsive [("127.0.0.1", 30)]).ReaddedByHand 0 hungStart := by
    rintro ⟨before, after, hsplit, -⟩
    have hmem : Move.add 0 ∈ hungStart := by simp [hsplit]
    simp [hungStart, waitingStart] at hmem
  have hdecided := start_decided_in_time unresponsive [("127.0.0.1", 30)] hungStart 0 _ _ hpunctual
    rfl rfl rfl hhears rfl (by decide)
  obtain ⟨hstate, -, hentry⟩ := hdecided.2 hunready
  exact ⟨_, _, rfl, rfl, rfl, hpunctual, rfl, hhears, rfl, rfl, hunready, hstate, hentry hhand⟩

end Switchboard

end PodTunnels
