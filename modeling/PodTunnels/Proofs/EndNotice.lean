import PodTunnels.Proofs.Sights

/-!
# The notice about the end

What is said about a session is decided in three places: by its runner, by the activation and by the
retirement, and the last two wait in the queue of an interface while the first goes on. What ties
them together is `Standing.Tells`: how far the runner is, what it has seen, what waits and what was
told fit together, as long as nobody but the runner asks for the close. Each move keeps that, those
of the runner by what it sees (`tells_watch`) and the others by what they do to the session
(`tells_turn`).

So once the runner has ended and the interface has come to the end of its queue, the end was told
once, in the words that fit what the runner saw; and the activation before it, if at all, and only
after readiness (`end_told_once`).
-/

namespace PodTunnels

/-- What is to be said about the end of a session, given all that its runner saw. -/
inductive Effect.Befits (key : SessionKey) (seconds : Nat) : Effect → List Sight → Prop
  | unready {e : Failure} : Befits key seconds (.error e) [.unready e]
  | late : Befits key seconds (.error (Switchboard.notReady key seconds)) [.late]
  | failed {e : Failure} : Befits key seconds (.error e) [.ready, .finished (.failed e)]
  | closed : Befits key seconds (.info (.closed key)) [.ready, .finished .success]

namespace Session

def activation (s : Session) (c : ControllerId) (id : SessionId) : List Notice :=
  [⟨c, .session id, .info (.activated s.pod s.firstTunnel.localPort)⟩, ⟨c, .session id, .dismiss⟩]

theorem activation_congr {s s' : Session} (hwiring : s'.toWiring = s.toWiring) (c : ControllerId)
    (id : SessionId) : s'.activation c id = s.activation c id := by
  simp only [activation, pod, hwiring]

def conclusion (effect : Effect) (c : ControllerId) (id : SessionId) : List Notice :=
  [⟨c, .session id, effect⟩, ⟨c, .session id, .refresh⟩]

end Session

open Switchboard

/-- How the runner of a launched session, what it has seen, what waits about the session and what
was told about it fit together. -/
inductive Telling (id : SessionId) (s : Session) (r : Runner) :
    List Sight → List Task → List Notice → Prop
  | waiting (hphase : r.phase = .waiting) (hopen : s.closeRequested = false)
      (hstate : s.state = .starting) : Telling id s r [] [] []
  | ready (hphase : r.phase = .forwarding) (hopen : s.closeRequested = false)
      (hstate : s.state = .starting) : Telling id s r [.ready] [.activate id] []
  | active (hphase : r.phase = .forwarding) (hopen : s.closeRequested = false)
      (hstate : s.state ≠ .starting) :
      Telling id s r [.ready] [] (s.activation r.controller id)
  | aborting {e : Failure} {since : Nat} {sights : List Sight}
      (hphase : r.phase = .aborting (.failed e) since)
      (hbefits : Effect.Befits s.key r.readySeconds (.error e) sights)
      (hnot : .ready ∉ sights) : Telling id s r sights [] []
  /-- The retirement waits, perhaps behind an activation that comes too late. -/
  | ended {outcome : Outcome} {effect : Effect} {sights : List Sight} {pending : List Task}
      {told : List Notice} (hphase : r.phase = .ended) (hstate : s.state ≠ .starting)
      (hbefits : effect.Befits s.key r.readySeconds sights)
      (heffect : endEffect s outcome = some effect)
      (hpending : pending = [] ∨ pending = [.activate id] ∧ told = [] ∧ .ready ∈ sights)
      (htold : told = [] ∨ told = s.activation r.controller id ∧ .ready ∈ sights) :
      Telling id s r sights (pending ++ [.retire id outcome]) told
  | told {effect : Effect} {sights : List Sight} {told : List Notice} (hphase : r.phase = .ended)
      (hbefits : effect.Befits s.key r.readySeconds sights)
      (htold : told = [] ∨ told = s.activation r.controller id ∧ .ready ∈ sights) :
      Telling id s r sights [] (told ++ Session.conclusion effect r.controller id)

namespace Telling

variable {id : SessionId} {s s' : Session} {r : Runner} {sights : List Sight}
  {waiting : List Task} {told : List Notice}

/-- The parts of a session that do not matter here. -/
theorem congr (h : Telling id s r sights waiting told) (hwiring : s'.toWiring = s.toWiring)
    (hstate : s'.state = s.state) (hclose : s'.closeRequested = s.closeRequested) :
    Telling id s' r sights waiting told := by
  have hkey : s'.key = s.key := congrArg Wiring.key hwiring
  have hactivation := Session.activation_congr hwiring r.controller id
  cases h with
  | waiting hphase hopen hstarting =>
    exact .waiting hphase (hclose.trans hopen) (hstate.trans hstarting)
  | ready hphase hopen hstarting =>
    exact .ready hphase (hclose.trans hopen) (hstate.trans hstarting)
  | active hphase hopen hpast =>
    rw [← hactivation]
    exact .active hphase (hclose.trans hopen) (hstate ▸ hpast)
  | aborting hphase hbefits hnot => exact .aborting hphase (hkey ▸ hbefits) hnot
  | @ended outcome _ _ _ _ hphase hpast hbefits heffect hpending htold =>
    have heffect' : endEffect s' outcome = endEffect s outcome := by
      cases outcome <;> simp [endEffect, hclose, hkey]
    exact .ended hphase (hstate ▸ hpast) (hkey ▸ hbefits) (heffect'.trans heffect) hpending
      (hactivation ▸ htold)
  | told hphase hbefits htold => exact .told hphase (hkey ▸ hbefits) (hactivation ▸ htold)

/-- An activation that waits is carried out while the session is starting. -/
theorem activate {rest : List Task} (h : Telling id s r sights (.activate id :: rest) told)
    (hstate : s.state = .starting) :
    Telling id (s.live Life.activate) r sights rest (told ++ s.activation r.controller id) := by
  generalize hwaiting : Task.activate id :: rest = tasks at h
  cases h with
  | waiting | active | aborting | told => cases hwaiting
  | ready hphase hopen =>
    cases hwaiting
    exact .active hphase hopen (by simp [Life.activate])
  | ended hphase hpast => exact absurd hstate hpast

/-- An activation that comes too late is passed over. -/
theorem outlive {rest : List Task} (h : Telling id s r sights (.activate id :: rest) told)
    (hstate : s.state ≠ .starting) : Telling id s r sights rest told := by
  generalize hwaiting : Task.activate id :: rest = tasks at h
  cases h with
  | waiting | active | aborting | told => cases hwaiting
  | ready hphase hopen hstarting => exact absurd hstarting hstate
  | ended hphase hpast hbefits heffect hpending htold =>
    obtain rfl | ⟨rfl, -⟩ := hpending
    · cases hwaiting
    · cases hwaiting
      exact .ended hphase hpast hbefits heffect (.inl rfl) htold

/-- A retirement that waits tells the end. -/
theorem retire {rest : List Task} {outcome : Outcome}
    (h : Telling id s r sights (.retire id outcome :: rest) told)
    (hwiring : s'.toWiring = s.toWiring) :
    Telling id s' r sights rest (told ++ ((endEffect s outcome).toList ++ [Effect.refresh]).map
      fun e => ⟨r.controller, .session id, e⟩) := by
  have hkey : s'.key = s.key := congrArg Wiring.key hwiring
  have hactivation := Session.activation_congr hwiring r.controller id
  generalize hwaiting : Task.retire id outcome :: rest = tasks at h
  cases h with
  | waiting | ready | active | aborting | told => cases hwaiting
  | ended hphase hpast hbefits heffect hpending htold =>
    obtain rfl | ⟨rfl, -⟩ := hpending
    · cases hwaiting
      rw [heffect]
      exact .told hphase (hkey ▸ hbefits) (hactivation ▸ htold)
    · cases hwaiting

end Telling

namespace Standing

/-- What was seen, what waits and what was told about a session fit together. -/
structure Tells (st : Standing) (id : SessionId) (sights : List Sight) : Prop where
  /-- Nothing has happened to a session without a runner. -/
  idle : st.runner? = none → sights = [] ∧ st.told = [] ∧
    ∀ s, st.session = some s → s.state = .starting ∧ s.closeRequested = false
  launched : ∀ s r, st.session = some s → s.runner = some r → st.hears r.controller = true →
    Telling id s r sights (st.errands r.controller) st.told

def closeAsked (st : Standing) : Bool :=
  st.session.any fun s => s.closeRequested

variable {st st' : Standing} {id : SessionId} {sights : List Sight} {s : Session} {r : Runner}

theorem closeAsked_of_session (hs : st.session = some s) : st.closeAsked = s.closeRequested := by
  simp [closeAsked, hs]

theorem runner?_eq_none_of_session (hs : st.session = some s) (hidle : s.runner = none) :
    st.runner? = none :=
  (runner?_of_session hs).trans hidle

/-- A session with a runner is described by what holds of the two. -/
theorem Tells.of_launched (hs : st.session = some s) (hrunner : s.runner = some r)
    (h : st.hears r.controller = true →
      Telling id s r sights (st.errands r.controller) st.told) : st.Tells id sights where
  idle hidle := by
    rw [runner?_of_session hs, hrunner] at hidle
    cases hidle
  launched s' r' hs' hrunner' := by
    cases hs.symm.trans hs'
    cases hrunner.symm.trans hrunner'
    exact h

/-- A session without a runner about which nothing is known yet. -/
theorem Tells.of_idle (hidle : st.runner? = none) (hsights : sights = []) (htold : st.told = [])
    (hfresh : ∀ s, st.session = some s → s.state = .starting ∧ s.closeRequested = false) :
    st.Tells id sights where
  idle _ := ⟨hsights, htold, hfresh⟩
  launched s r hs hrunner := by
    rw [runner?_of_session hs, hrunner] at hidle
    cases hidle

/-- A change that leaves the runner, the state, what waits and what was told alone. -/
theorem Tells.live (h : st.Tells id sights) {f : Life → Life}
    (hrunner : ∀ l, (f l).runner = l.runner) (hstate : ∀ l, (f l).state = l.state)
    (hclose : ∀ s, st.session = some s → (f s.toLife).closeRequested = s.closeRequested) :
    (st.live f).Tells id sights := by
  cases hs : st.session with
  | none =>
    have hsame : st.live f = st := by
      cases st
      simp_all [Standing.live]
    rwa [hsame]
  | some s =>
    have hs' := live_session hs f
    cases hr : s.runner with
    | none =>
      obtain ⟨hsights, htold, hfresh⟩ := h.idle (runner?_eq_none_of_session hs hr)
      apply Tells.of_idle (runner?_eq_none_of_session hs' ((hrunner _).trans hr)) hsights htold
      intro s₁ hs₁
      cases hs'.symm.trans hs₁
      obtain ⟨hstarting, hopen⟩ := hfresh s hs
      exact ⟨(hstate _).trans hstarting, (hclose s hs).trans hopen⟩
    | some r =>
      apply Tells.of_launched hs' ((hrunner _).trans hr)
      intro hhears
      exact (h.launched s r hs hr hhears).congr rfl (hstate _) (hclose s hs)

end Standing

namespace Switchboard

open Standing

variable {sb : Switchboard} {id : SessionId} {c : ControllerId} {m : Move} {st : Standing}
  {sights : List Sight} {s : Session} {r : Runner}

/-! ## Moves of others -/

/-- Where the close was asked for before, or is not asked for now, a request changes nothing. -/
theorem closeRequested_of_alone {f : Life → Life} (hf : ∀ l, (f l).closeRequested = true)
    (halone : (sb.standing id).closeAsked = false →
      ((sb.standing id).live f).closeAsked = false) :
    ∀ s, (sb.standing id).session = some s → (f s.toLife).closeRequested = s.closeRequested := by
  intro s hs
  cases hclose : s.closeRequested with
  | true => exact hf _
  | false =>
    have hafter := halone ((closeAsked_of_session hs).trans hclose)
    rw [closeAsked_of_session (live_session hs f)] at hafter
    exact hafter

/-- What is told about a session stays in line with what was seen by each move that is not a step of
its runner and does not ask for its close. -/
theorem tells_turn (hsound : (sb.standing id).Sound id) (h : (sb.standing id).Tells id sights)
    (hturn : sb.Turn id m st) (hother : m.isStepOf id = false)
    (halone : (sb.standing id).closeAsked = false → st.closeAsked = false) :
    st.Tells id sights := by
  cases hturn with
  | rest => exact h
  | displaced | added | deleted | deletedSession => exact ⟨h.idle, h.launched⟩
  | created hnone hbirth =>
    have hnobody : (sb.standing id).runner? = none := by simp [runner?, standing, hnone]
    have hunasked : (sb.standing id).closeAsked = false := by
      simp [closeAsked, standing, hnone]
    obtain ⟨hsights, htold, -⟩ := h.idle hnobody
    cases hbirth with
    | idle | rival =>
      refine Tells.of_idle rfl hsights htold ?_
      rintro s ⟨⟩
      exact ⟨rfl, rfl⟩
    | refused => cases halone hunasked
    | @started c r hfree hcontroller hphase =>
      apply Tells.of_launched rfl rfl
      intro hhears
      have herrands : (sb.standing id).errands r.controller = [] := (hsound.unborn hnone).2 _
      rw [hsights, htold, herrands]
      exact .waiting hphase rfl rfl
  | @shut c =>
    refine ⟨h.idle, ?_⟩
    intro s r hs hrunner hhears
    by_cases hc : r.controller = c
    · simp [Standing.shut, hc] at hhears
    · simp only [Standing.shut, Function.update_of_ne hc] at hhears ⊢
      exact h.launched s r hs hrunner hhears
  | closed | closedAll =>
    refine h.live (f := Life.requestClose) (fun _ => rfl) (fun _ => rfl) ?_
    exact closeRequested_of_alone (fun _ => rfl) halone
  | stopped =>
    rw [quit_eq] at halone ⊢
    have h' : ((sb.standing id).register false).Tells id sights := ⟨h.idle, h.launched⟩
    refine h'.live (f := fun l => l.deactivate.requestClose) (fun _ => rfl) (fun _ => rfl) ?_
    exact closeRequested_of_alone (fun _ => rfl) halone
  | @launched s r hs hrunner hphase =>
    obtain ⟨hsights, htold, hfresh⟩ := h.idle (runner?_eq_none_of_session hs hrunner)
    obtain ⟨hstarting, hopen⟩ := hfresh s hs
    apply Tells.of_launched (live_session hs _) rfl
    intro hhears
    have herrands : (sb.standing id).errands r.controller = [] := by
      apply List.eq_nil_iff_forall_not_mem.2
      intro task htask
      obtain ⟨s', r', hs', hr', -⟩ := hsound.errand _ task htask
      cases hs.symm.trans hs'
      cases hrunner.symm.trans hr'
    show Telling id _ r sights ((sb.standing id).errands r.controller) (sb.standing id).told
    rw [hsights, htold, herrands]
    exact .waiting hphase hopen hstarting
  | @activated c rest s hwaiting hs hstate =>
    obtain ⟨s', r, hs', hrunner, rfl, -⟩ := exists_runner_of_waiting hsound hwaiting rfl
    cases hs.symm.trans hs'
    have hfirst : (sb.standing id).errands r.controller = _ := errands_of_waiting hwaiting rfl
    have hsession : ((sb.standing id).pop r.controller).session = some s := hs
    refine Tells.of_launched (live_session hsession Life.activate) hrunner ?_
    intro hhears
    have htelling := h.launched s r hs hrunner hhears
    rw [hfirst] at htelling
    simpa [Standing.pop, Standing.live, Standing.tell, hfirst, Session.activation] using
      htelling.activate hstate
  | @outlived c rest hwaiting hlate =>
    obtain ⟨s, r, hs, hrunner, rfl, -⟩ := exists_runner_of_waiting hsound hwaiting rfl
    have hfirst : (sb.standing id).errands r.controller = _ := errands_of_waiting hwaiting rfl
    refine Tells.of_launched (s := s) hs hrunner ?_
    intro hhears
    have htelling := h.launched s r hs hrunner hhears
    rw [hfirst] at htelling
    simpa [Standing.pop, hfirst] using htelling.outlive (hlate s hs)
  | @retired c rest outcome s hwaiting hs =>
    obtain ⟨s', r, hs', hrunner, rfl, -⟩ := exists_runner_of_waiting hsound hwaiting rfl
    cases hs.symm.trans hs'
    have hfirst : (sb.standing id).errands r.controller = _ := errands_of_waiting hwaiting rfl
    have hsession : ((sb.standing id).pop r.controller).session = some s := hs
    obtain ⟨s', hs', hwiring, -⟩ := follows_cleanUp ((sb.standing id).pop r.controller) s hsession
    have hrunner' : s'.runner = some r := by
      rw [← runner?_of_session hs', runner?_cleanUp, runner?_of_session hsession, hrunner]
    refine Tells.of_launched (s := s') hs' hrunner' ?_
    intro hhears
    have htelling := h.launched s r hs hrunner (hears_turn (.retired hwaiting hs) hhears)
    rw [hfirst] at htelling
    rw [Standing.tell, errands_cleanUp, told_cleanUp]
    simpa [Standing.pop, hfirst] using htelling.retire hwiring
  | missed hwaiting hnone =>
    obtain ⟨s, r, hs, -⟩ := exists_runner_of_waiting hsound hwaiting rfl
    cases hnone.symm.trans hs
  | ready | readyAlone | aborted | ended | endedAlone => simp [Move.isStepOf] at hother

/-! ## Steps of the runner -/

/-- The end that a relaying runner finds is told as it is, as long as nobody asks for the close. -/
theorem exists_befitting (hopen : s.closeRequested = false) (outcome : Outcome) (seconds : Nat) :
    ∃ effect : Effect, effect.Befits s.key seconds [.ready, .finished outcome] ∧
      endEffect s (excuse s.closeRequested outcome) = some effect := by
  cases outcome with
  | success => exact ⟨_, .closed, by simp [endEffect, excuse, hopen]⟩
  | failed e => exact ⟨_, .failed, by simp [endEffect, excuse, hopen]⟩

/-- A runner that ends leaves its retirement behind what waits. -/
theorem tells_ended {sights' : List Sight} {outcome : Outcome} {effect : Effect}
    {pending : List Task}
    (hs : (sb.standing id).session = some s) (hrunner : s.runner = some r)
    (herrands : (sb.standing id).errands r.controller = pending)
    (hbefits : effect.Befits s.key r.readySeconds sights')
    (heffect : endEffect s outcome = some effect)
    (hpending : pending = [] ∨
      pending = [.activate id] ∧ (sb.standing id).told = [] ∧ .ready ∈ sights')
    (htold : (sb.standing id).told = [] ∨
      (sb.standing id).told = s.activation r.controller id ∧ .ready ∈ sights') :
    (((sb.standing id).live fun l => (l.enter .ended).terminate).queue r.controller
      (.retire id outcome)).Tells id sights' := by
  have hrunner' : (s.live fun l => (l.enter .ended).terminate).runner =
      some { r with phase := .ended } := by
    simp [Life.enter, Life.terminate, hrunner]
  refine Tells.of_launched (live_session hs _) hrunner' ?_
  intro hhears
  have hqueued : (((sb.standing id).live fun l => (l.enter .ended).terminate).queue r.controller
      (.retire id outcome)).errands r.controller = pending ++ [.retire id outcome] := by
    simp [Standing.queue, Standing.live, herrands]
  rw [hqueued]
  have heffect' : endEffect (s.live fun l => (l.enter .ended).terminate) outcome = some effect :=
    heffect
  exact .ended rfl (by simp [Life.terminate]) hbefits heffect' hpending htold

/-- A runner that gives a start up has nothing said yet. -/
theorem tells_aborting {sights' : List Sight} {e : Failure} {since alarm : Nat}
    (hs : (sb.standing id).session = some s) (hrunner : s.runner = some r)
    (herrands : (sb.standing id).errands r.controller = [])
    (htold : (sb.standing id).told = [])
    (hbefits : Effect.Befits s.key r.readySeconds (.error e) sights') (hnot : .ready ∉ sights') :
    ((sb.standing id).live fun l =>
      (l.requestClose.enter (.aborting (.failed e) since)).setAlarm alarm).Tells id sights' := by
  have hrunner' : (s.live fun l =>
      (l.requestClose.enter (.aborting (.failed e) since)).setAlarm alarm).runner =
        some { r with phase := .aborting (.failed e) since, alarm } := by
    simp [Life.enter, Life.setAlarm, Life.requestClose, hrunner]
  refine Tells.of_launched (live_session hs _) hrunner' ?_
  intro _
  simp only [Standing.live, herrands, htold]
  exact .aborting rfl hbefits hnot

/-- What is told about a session stays in line with what was seen by each step of its runner. -/
theorem tells_watch {sight : Option Sight} (hs : (sb.standing id).session = some s)
    (hrunner : s.runner = some r) (hhears : (sb.standing id).hears r.controller = true)
    (h : (sb.standing id).Tells id sights) (hwatch : sb.Watch id s r sight st) :
    st.Tells id (sights ++ sight.toList) := by
  have htelling := h.launched s r hs hrunner hhears
  generalize herrands : (sb.standing id).errands r.controller = errands at htelling
  generalize htold : (sb.standing id).told = told at htelling
  cases hwatch with
  | idle => simpa using h
  | ready hphase =>
    cases htelling with
    | waiting _ hopen hstate =>
      have hrunner' : (s.live fun l => l.enter .forwarding).runner =
          some { r with phase := .forwarding } := by
        simp [Life.enter, hrunner]
      refine Tells.of_launched (live_session hs _) hrunner' ?_
      intro _
      simpa [Standing.queue, Standing.live, herrands, htold] using
        Telling.ready (s := s.live fun l => l.enter .forwarding)
          (r := { r with phase := .forwarding }) rfl hopen hstate
    | ready hphase' | active hphase' | aborting hphase' | ended hphase' | told hphase' =>
      cases hphase.symm.trans hphase'
  | unready hphase =>
    cases htelling with
    | waiting _ hopen hstate =>
      rw [hopen]
      exact tells_aborting hs hrunner herrands htold .unready (by simp)
    | ready hphase' | active hphase' | aborting hphase' | ended hphase' | told hphase' =>
      cases hphase.symm.trans hphase'
  | late hphase =>
    cases htelling with
    | waiting _ hopen hstate => exact tells_aborting hs hrunner herrands htold .late (by simp)
    | ready hphase' | active hphase' | aborting hphase' | ended hphase' | told hphase' =>
      cases hphase.symm.trans hphase'
  | @finished outcome hphase =>
    cases htelling with
    | ready _ hopen hstate =>
      obtain ⟨effect, hbefits, heffect⟩ := exists_befitting hopen outcome r.readySeconds
      have hseen : .ready ∈ [Sight.ready] ++ (some (Sight.finished outcome)).toList :=
        List.mem_cons_self
      exact tells_ended hs hrunner herrands hbefits heffect (.inr ⟨rfl, htold, hseen⟩) (.inl htold)
    | active _ hopen hstate =>
      obtain ⟨effect, hbefits, heffect⟩ := exists_befitting hopen outcome r.readySeconds
      exact tells_ended hs hrunner herrands hbefits heffect (.inl rfl)
        (.inr ⟨htold, List.mem_cons_self⟩)
    | waiting hphase' | aborting hphase' | ended hphase' | told hphase' =>
      cases hphase.symm.trans hphase'
  | down hphase =>
    rw [Option.toList_none, List.append_nil]
    cases htelling with
    | aborting hphase' hbefits hnot =>
      cases hphase.symm.trans hphase'
      exact tells_ended hs hrunner herrands hbefits rfl (.inl rfl) (.inl htold)
    | waiting hphase' | ready hphase' | active hphase' | ended hphase' | told hphase' =>
      cases hphase.symm.trans hphase'

theorem stepRunner_of_idle (hidle : (sb.standing id).runner? = none) : sb.stepRunner id = sb := by
  rcases stepRunner_cases sb id with hsame | ⟨s, r, hs, hrunner, -⟩
  · exact hsame
  · rw [runner?_of_session hs, hrunner] at hidle
    cases hidle

theorem tells_stepRunner (hsound : sb.Sound) (h : (sb.standing id).Tells id sights) :
    ((sb.stepRunner id).standing id).Tells id
      (sights ++ (sb.sight? id (.stepRunner id)).toList) := by
  cases hs : sb.session? id with
  | none =>
    have hidle : (sb.standing id).runner? = none := by simp [runner?, standing, hs]
    rw [stepRunner_of_idle hidle, sight?_of_idle hidle]
    simpa using h
  | some s =>
    cases hrunner : s.runner with
    | none =>
      have hidle := runner?_eq_none_of_session (session_standing hs) hrunner
      rw [stepRunner_of_idle hidle, sight?_of_idle hidle]
      simpa using h
    | some r =>
      cases hhears : sb.hears r.controller with
      | true =>
        rw [sight?_of_session hs hrunner]
        exact tells_watch (session_standing hs) hrunner hhears h
          (watch_stepRunner hs hrunner hhears)
      | false =>
        -- Nothing is said of a session whose interface is gone.
        obtain ⟨s', hs', -, honward⟩ := hsound.follows_step (.stepRunner id) id s hs
        obtain ⟨r', hrunner', hcontroller, -⟩ := honward.runner r hrunner
        refine Tells.of_launched hs' hrunner' ?_
        intro hhears'
        have hbefore := hears_turn (hsound.turn (.stepRunner id) id) hhears'
        rw [hcontroller, hhears] at hbefore
        cases hbefore

/-! ## Runs -/

/-- Along a run nobody but its runner asks for the close of a session: a move that makes the close
asked for is a step of the runner. -/
def leftAlone (sb : Switchboard) (id : SessionId) : List Move → Bool
  | [] => true
  | m :: moves =>
    (m.isStepOf id || (sb.standing id).closeAsked || !((sb.step m).standing id).closeAsked) &&
      (sb.step m).leftAlone id moves

theorem leftAlone_append (sb : Switchboard) (id : SessionId) (moves later : List Move) :
    sb.leftAlone id (moves ++ later) =
      (sb.leftAlone id moves && (sb.run moves).leftAlone id later) := by
  induction moves generalizing sb with
  | nil => simp [leftAlone, run]
  | cons first moves ih =>
    simp only [List.cons_append, leftAlone, ih, Bool.and_assoc]
    rfl

theorem Sound.tells_step (hsound : sb.Sound) (h : (sb.standing id).Tells id sights)
    (halone : sb.leftAlone id [m] = true) :
    ((sb.step m).standing id).Tells id (sights ++ (sb.sight? id m).toList) := by
  cases hown : m.isStepOf id with
  | true =>
    obtain rfl := Move.eq_of_isStepOf hown
    exact tells_stepRunner hsound h
  | false =>
    have hsight : sb.sight? id m = none := by simp [sight?, hown]
    rw [hsight, Option.toList_none, List.append_nil]
    apply tells_turn (hsound.session id) h (hsound.turn m id) hown
    intro hbefore
    simpa [leftAlone, hown, hbefore] using halone

/-- What is told about a session that is left alone is in line with what its runner saw. -/
theorem tells_run (surroundings : Surroundings) (controllers : List (String × Nat))
    (moves : List Move) (id : SessionId)
    (halone : (initial surroundings controllers).leftAlone id moves = true) :
    (((initial surroundings controllers).run moves).standing id).Tells id
      ((initial surroundings controllers).sights id moves) := by
  induction moves using List.reverseRecOn with
  | nil =>
    refine Tells.of_idle rfl rfl rfl ?_
    intro s hs
    cases hs
  | append_singleton moves m ih =>
    rw [leftAlone_append, Bool.and_eq_true] at halone
    rw [run_concat, sights_concat]
    have hsound := (sound_initial surroundings controllers).run moves
    exact hsound.tells_step (ih halone.1) halone.2

/-- Of what the runner saw, the end of the transport comes last, after readiness. -/
theorem exists_finished_of_ready {effect : Effect} {key : SessionKey} {seconds : Nat}
    (hbefits : effect.Befits key seconds sights) (hready : .ready ∈ sights) :
    ∃ outcome, .finished outcome ∈ sights := by
  cases hbefits with
  | unready | late => simp at hready
  | failed => exact ⟨_, List.mem_cons_of_mem _ List.mem_cons_self⟩
  | closed => exact ⟨_, List.mem_cons_of_mem _ List.mem_cons_self⟩

/-- An activation that an interface comes to before the runner saw the end of the transport is
carried out. -/
theorem activated_in_time {rest : List Task} (hsound : sb.Sound)
    (h : (sb.standing id).Tells id sights) (hwaiting : sb.waiting c = .activate id :: rest)
    (hintime : ∀ outcome, .finished outcome ∉ sights) :
    ∃ s, sb.session? id = some s ∧ (sb.step (.applyTask c)).isActive id = true ∧
      (sb.step (.applyTask c)).told id = s.activation c id := by
  obtain ⟨s, r, hs, hrunner, rfl, -⟩ := exists_runner_of_waiting (hsound.session id) hwaiting rfl
  have hfirst : (sb.standing id).errands r.controller = _ := errands_of_waiting hwaiting rfl
  have hhears : (sb.standing id).hears r.controller = true := by
    cases hhears : (sb.standing id).hears r.controller with
    | true => rfl
    | false =>
      rw [(hsound.session id).silent _ hhears] at hfirst
      cases hfirst
  have htelling := h.launched s r hs hrunner hhears
  rw [hfirst] at htelling
  generalize hqueue : Task.activate id :: _ = queue at htelling
  generalize htold : (sb.standing id).told = told at htelling
  cases htelling with
  | waiting | active | aborting | told => cases hqueue
  | ended _ _ hbefits _ hpending =>
    obtain rfl | ⟨-, -, hready⟩ := hpending
    · cases hqueue
    · obtain ⟨outcome, hfinished⟩ := exists_finished_of_ready hbefits hready
      exact absurd hfinished (hintime outcome)
  | ready _ _ hstate =>
    refine ⟨s, hs, (Activates.applied hwaiting hs hstate).isActive_step, ?_⟩
    have hshown := congrArg Standing.told (standing_activate hwaiting hs hstate)
    rw [step, applyTask_of_cons hwaiting, perform]
    refine hshown.trans ?_
    show (sb.standing id).told ++ _ = _
    rw [htold]
    rfl

/-- Once the runner saw how its tunnels end, it ends itself, if only time passes. -/
theorem ends_after_wait {effect : Effect} (hs : sb.session? id = some s)
    (hrunner : s.runner = some r) (hhears : sb.hears r.controller = true)
    (h : (sb.standing id).Tells id sights) (hbefits : effect.Befits s.key r.readySeconds sights) :
    ∃ wait, ((sb.run [.elapse wait, .stepRunner id]).standing id).runner? =
      some { r with phase := .ended } := by
  have htelling := h.launched s r hs hrunner hhears
  have hbefore : (sb.standing id).runner? = some r :=
    (runner?_of_session (session_standing hs)).trans hrunner
  generalize (sb.standing id).errands r.controller = errands at htelling
  generalize (sb.standing id).told = told at htelling
  cases htelling with
  | waiting | ready | active => cases hbefits
  | @aborting e since _ hphase =>
    refine ⟨since + Runner.closeGrace, ?_⟩
    generalize hlater : { sb with clock := sb.clock + (since + Runner.closeGrace) } = later
    have hstep : later.stepRunner id = later.runnerEnd id s r (.failed e) := by
      have hs' : later.session? id = some s := hlater ▸ hs
      have hgrace : (later.ending s.transport).isSome ∨
          since + Runner.closeGrace ≤ later.clock := by
        right
        rw [← hlater]
        show since + Runner.closeGrace ≤ sb.clock + (since + Runner.closeGrace)
        omega
      simp only [stepRunner, stepRunner?, hs', hrunner, hphase, bind, Option.bind, if_pos hgrace,
        Option.getD_some]
    have hsession : (later.standing id).session = some s := hlater ▸ hs
    show ((Switchboard.stepRunner { sb with clock := _ } id).standing id).runner? = _
    rw [hlater, hstep, standing_runnerEnd (hlater ▸ hhears)]
    refine (runner?_live_of_session hsession).trans ?_
    simp [Life.enter, Life.terminate, hrunner]
  | ended hphase | told hphase =>
    refine ⟨0, ?_⟩
    have hidle : sb.stepRunner id = sb := by
      simp [stepRunner, stepRunner?, hs, hrunner, hphase]
    have hsame : sb.run [.elapse 0, .stepRunner id] = sb := hidle
    rw [hsame, hbefore, ← hphase]

/-- The end of a session is told once. Let a session be launched, let nobody but its runner ask for
its close, and let its interface be there. Once the runner saw how the tunnels end, it ends itself
in time. When it has ended and the queue is drained, there is one notice about the end, the one that
befits what the runner saw; the activation was told before it or not at all, and only after
readiness. It was told, and the session was active, if the interface came to it before the runner
saw the end of the transport. -/
theorem end_told_once (surroundings : Surroundings) (controllers : List (String × Nat))
    (moves : List Move) (id : SessionId) (s : Session) (r : Runner)
    (hs : ((initial surroundings controllers).run moves).session? id = some s)
    (hrunner : s.runner = some r)
    (halone : (initial surroundings controllers).leftAlone id moves = true)
    (hhears : ((initial surroundings controllers).run moves).hears r.controller = true) :
    (∀ effect : Effect,
      effect.Befits s.key r.readySeconds ((initial surroundings controllers).sights id moves) →
      ∃ wait, (((initial surroundings controllers).run
        (moves ++ [.elapse wait, .stepRunner id])).standing id).runner? =
          some { r with phase := .ended }) ∧
    (r.phase = .ended → ((initial surroundings controllers).run moves).waiting r.controller = [] →
      ∃ effect : Effect,
        effect.Befits s.key r.readySeconds ((initial surroundings controllers).sights id moves) ∧
        (((initial surroundings controllers).run moves).told id =
            Session.conclusion effect r.controller id ∨
          ((initial surroundings controllers).run moves).told id =
              s.activation r.controller id ++ Session.conclusion effect r.controller id ∧
            .ready ∈ (initial surroundings controllers).sights id moves)) ∧
    ∀ before after c rest, moves = before ++ .applyTask c :: after →
      ((initial surroundings controllers).run before).waiting c = .activate id :: rest →
      (∀ outcome, .finished outcome ∉ (initial surroundings controllers).sights id before) →
        ((initial surroundings controllers).run (before ++ [.applyTask c])).isActive id = true ∧
        ((initial surroundings controllers).run (before ++ [.applyTask c])).told id =
          s.activation c id := by
  have htells := tells_run surroundings controllers moves id halone
  refine ⟨?_, ?_, ?_⟩
  · intro effect hbefits
    obtain ⟨wait, hends⟩ := ends_after_wait hs hrunner hhears htells hbefits
    refine ⟨wait, ?_⟩
    rw [run_append]
    exact hends
  · intro hended hdrained
    have htelling := htells.launched s r hs hrunner hhears
    have hnothing : (((initial surroundings controllers).run moves).standing id).errands
        r.controller = [] := by
      simp [standing, errands, hdrained]
    rw [hnothing] at htelling
    generalize hqueue : ([] : List Task) = queue at htelling
    generalize htold : Standing.told _ = told at htelling
    generalize (initial surroundings controllers).sights id moves = seen at htelling ⊢
    cases htelling with
    | waiting hphase | ready hphase | active hphase | aborting hphase =>
      cases hended.symm.trans hphase
    | ended => simp at hqueue
    | @told effect _ _ _ hbefits hbefore =>
      refine ⟨effect, hbefits, ?_⟩
      obtain rfl | ⟨rfl, hready⟩ := hbefore
      · exact .inl htold
      · exact .inr ⟨htold, hready⟩
  · intro before after c rest hsplit hwaiting hintime
    rw [hsplit, leftAlone_append, Bool.and_eq_true] at halone
    have hsound := (sound_initial surroundings controllers).run before
    have hbefore := tells_run surroundings controllers before id halone.1
    obtain ⟨s₀, hs₀, hactive, htold⟩ := activated_in_time hsound hbefore hwaiting hintime
    have hwiring : s.toWiring = s₀.toWiring := by
      obtain ⟨s₁, hs₁, hwiring, -⟩ := hsound.follows_run (.applyTask c :: after) id s₀ hs₀
      rw [← run_append, ← hsplit] at hs₁
      cases hs.symm.trans hs₁
      exact hwiring
    rw [run_concat, Session.activation_congr hwiring]
    exact ⟨hactive, htold⟩

/-- A session whose transport becomes ready, is activated, and is lost then. -/
def lostTunnel : List Move :=
  waitingStart ++ [.signalReady 0 .success, .stepRunner 0, .applyTask 0,
    .signalFinish 0 (.failed (.transport "lost")), .stepRunner 0, .applyTask 0]

/-- The loss is told once, after the activation. -/
theorem lost_tunnel_told :
    ∃ s r, ((initial unready [("127.0.0.1", 30)]).run lostTunnel).session? 0 = some s ∧
      s.runner = some r ∧ r.phase = .ended ∧ r.controller = 0 ∧
      (initial unready [("127.0.0.1", 30)]).leftAlone 0 lostTunnel = true ∧
      ((initial unready [("127.0.0.1", 30)]).run lostTunnel).hears 0 = true ∧
      ((initial unready [("127.0.0.1", 30)]).run lostTunnel).waiting 0 = [] ∧
      ((initial unready [("127.0.0.1", 30)]).run lostTunnel).told 0 =
        s.activation 0 0 ++ Session.conclusion (.error (.transport "lost")) 0 0 := by
  have hsession : (((initial unready [("127.0.0.1", 30)]).run lostTunnel).session? 0).any (fun s =>
      s.runner.any fun r => r.phase = .ended && r.controller = 0) = true := by decide
  have halone : (initial unready [("127.0.0.1", 30)]).leftAlone 0 lostTunnel = true := by decide
  have hseen : (initial unready [("127.0.0.1", 30)]).sights 0 lostTunnel =
      [.ready, .finished (.failed (.transport "lost"))] := by decide
  have hhears : ((initial unready [("127.0.0.1", 30)]).run lostTunnel).hears 0 = true := by decide
  have hdrained : ((initial unready [("127.0.0.1", 30)]).run lostTunnel).waiting 0 = [] := rfl
  have hcount : (((initial unready [("127.0.0.1", 30)]).run lostTunnel).told 0).length = 4 := by
    decide
  simp only [Option.any_eq_true, Bool.and_eq_true, decide_eq_true_eq] at hsession
  obtain ⟨s, hs, r, hrunner, hended, hcontroller⟩ := hsession
  obtain ⟨-, htold, -⟩ := end_told_once unready [("127.0.0.1", 30)] lostTunnel 0 s r hs hrunner
    halone (hcontroller ▸ hhears)
  obtain ⟨effect, hbefits, hnotices⟩ := htold hended (hcontroller ▸ hdrained)
  refine ⟨s, r, hs, hrunner, hended, hcontroller, halone, hhears, hdrained, ?_⟩
  rw [hseen] at hbefits
  rw [hcontroller] at hnotices
  cases hbefits
  obtain hshort | ⟨hlong, -⟩ := hnotices
  · rw [hshort] at hcount
    cases hcount
  · exact hlong

end Switchboard

end PodTunnels
