import PodTunnels.Proofs.Drive

/-!
# Moves that take no time

Time passes in moves of its own, and in no others. Any other move is instant: the clock stands, and
a runner that was not there before is launched at the time that the clock shows (`instant_step`).
-/

namespace PodTunnels

namespace Switchboard

open Standing

variable {sb sb' sb₁ sb₂ sb₃ : Switchboard} {id : SessionId}

def launchTime? (sb : Switchboard) (id : SessionId) : Option Nat :=
  (sb.standing id).runner?.map Runner.launchedAt

theorem launchTime?_eq_none (h : (sb.standing id).runner? = none) : sb.launchTime? id = none :=
  congrArg (Option.map Runner.launchedAt) h

theorem launchTime?_of_runner {r : Runner} (h : (sb.standing id).runner? = some r) :
    sb.launchTime? id = some r.launchedAt :=
  congrArg (Option.map Runner.launchedAt) h

theorem launchTime?_congr (hroster : sb'.registry.roster = sb.registry.roster) (id : SessionId) :
    sb'.launchTime? id = sb.launchTime? id := by
  simp only [launchTime?, runner?, standing, session?, Registry.session?, hroster]

/-- No time passes: the clock stands, and every runner was launched when it was launched, or
now. -/
structure Instant (sb sb' : Switchboard) : Prop where
  clock : sb'.clock = sb.clock
  launched : ∀ id, sb'.launchTime? id = sb.launchTime? id ∨ sb'.launchTime? id = some sb.clock

namespace Instant

theorem of_roster (hclock : sb'.clock = sb.clock)
    (hroster : sb'.registry.roster = sb.registry.roster) : sb.Instant sb' :=
  ⟨hclock, fun id => .inl (launchTime?_congr hroster id)⟩

theorem refl (sb : Switchboard) : sb.Instant sb :=
  of_roster rfl rfl

theorem trans (h : sb₁.Instant sb₂) (h' : sb₂.Instant sb₃) : sb₁.Instant sb₃ where
  clock := h'.clock.trans h.clock
  launched id := by
    rcases h'.launched id with hsame | hnow
    · exact (h.launched id).imp hsame.trans hsame.trans
    · exact .inr (hnow.trans (congrArg some h.clock))

theorem of_quiet (h : sb.Quiet sb') : sb.Instant sb' :=
  of_roster h.clock (congrArg Registry.roster h.registry)

/-! ## Elementary changes -/

variable (sb : Switchboard) (c : ControllerId) (id : SessionId)

theorem live {f : Life → Life}
    (hf : ∀ l, (f l).runner.map Runner.launchedAt = l.runner.map Runner.launchedAt ∨
      (f l).runner.map Runner.launchedAt = some sb.clock) : sb.Instant (sb.live id f) := by
  refine ⟨rfl, fun i => ?_⟩
  rw [launchTime?, standing_live, launchTime?]
  split
  · cases hs : sb.session? i with
    | none =>
      have hnone : (sb.standing i).session = none := hs
      exact .inl (by simp [runner?, Standing.live, hnone])
    | some s =>
      rw [runner?_live_of_session (session_standing hs), runner?_of_session (session_standing hs)]
      exact hf s.toLife
  · exact .inl rfl

/-- A life that goes on with the same runner, or with none but one that was launched as long ago. -/
theorem live_of_eq {f : Life → Life}
    (hf : ∀ l, (f l).runner.map Runner.launchedAt = l.runner.map Runner.launchedAt) :
    sb.Instant (sb.live id f) :=
  live sb id fun l => .inl (hf l)

theorem launchedAt_enter (l : Life) (phase : Phase) :
    (l.enter phase).runner.map Runner.launchedAt = l.runner.map Runner.launchedAt := by
  cases h : l.runner <;> simp [Life.enter, h]

theorem launchedAt_setAlarm (l : Life) (alarm : Nat) :
    (l.setAlarm alarm).runner.map Runner.launchedAt = l.runner.map Runner.launchedAt := by
  cases h : l.runner <;> simp [Life.setAlarm, h]

theorem launchedAt_retire (l : Life) :
    l.retire.runner.map Runner.launchedAt = l.runner.map Runner.launchedAt := by
  unfold Life.retire
  split <;> rfl

/-- A session comes onto the roster without a runner. -/
theorem enroll (w : Wiring) : sb.Instant (sb.enroll w).2 := by
  refine ⟨rfl, fun i => .inl ?_⟩
  have hsession : (sb.enroll w).2.session? i = _ := Registry.session?_enroll sb.registry w i
  split at hsession
  · rename_i hi
    have hbefore : sb.session? i = none := hi ▸ Registry.session?_length
    simp [launchTime?, runner?, standing, hsession, hbefore, Session.ofWiring]
  · simp only [launchTime?, runner?, standing, hsession]
    rfl

theorem connect (t : Transport) : sb.Instant (sb.connect t).2 :=
  of_roster rfl rfl

theorem wire (t : TransportId) (f : Transport → Transport) : sb.Instant (sb.wire t f) :=
  of_roster rfl rfl

theorem deleteSession : sb.Instant { sb with registry := sb.registry.deleteSession id } :=
  of_roster rfl (Registry.roster_deleteSession sb.registry id)

theorem launchRunner : sb.Instant (sb.launchRunner c id) := by
  unfold Switchboard.launchRunner
  split
  · exact (live sb id fun _ => .inr rfl).trans (of_roster rfl rfl)
  · exact refl sb

/-! ## Sessions and starts -/

theorem closeSession : sb.Instant (sb.closeSession id) := by
  unfold Switchboard.closeSession
  split
  · split
    · exact refl sb
    · exact (live_of_eq sb id (f := Life.requestClose) fun _ => rfl).trans (of_roster rfl rfl)
  · exact refl sb

theorem stopSession : sb.Instant (sb.stopSession id) :=
  (deleteSession sb id).trans <|
    (live_of_eq _ id (f := Life.deactivate) fun _ => rfl).trans (closeSession _ id)

theorem foldl {f : Switchboard → SessionId → Switchboard} (hf : ∀ sb id, Instant sb (f sb id))
    (ids : List SessionId) : sb.Instant (ids.foldl f sb) :=
  List.foldlRecOn (motive := fun sb' : Switchboard => sb.Instant sb') ids f (refl sb)
    fun sb' h id _ => h.trans (hf sb' id)

theorem cleanUp : sb.Instant (sb.cleanUp id) := by
  unfold Switchboard.cleanUp
  split
  · split
    · exact refl sb
    · exact (deleteSession sb id).trans (live_of_eq _ id launchedAt_retire)
  · exact refl sb

theorem registerRival (key : SessionKey) : sb.Instant (sb.registerRival key) := by
  have henrolled (t : Transport) (w : Wiring) : sb.Instant ((sb.connect t).2.enroll w).2 :=
    (connect sb t).trans (enroll _ w)
  simp only [Switchboard.registerRival]
  split
  · rename_i hadd
    exact (henrolled ..).trans (of_roster rfl (Registry.roster_add hadd))
  · exact henrolled ..

theorem register (w : Wiring) : sb.Instant (sb.register c w).2 := by
  simp only [Switchboard.register]
  split
  · rename_i hadd
    refine .trans ?_ (launchRunner _ c _)
    exact (enroll sb w).trans (of_roster rfl (Registry.roster_add hadd))
  · exact ((enroll sb w).trans (closeSession _ _)).trans (wire ..)

theorem openSession (start : StartId) (key : SessionKey) (tunnels : List Tunnel) :
    sb.Instant (sb.openSession c start key tunnels).2 := by
  have hattempt : sb.Instant sb.attempt := of_roster rfl rfl
  have hopening : sb.Instant (sb.atOpening key) := by
    unfold atOpening
    split
    · exact hattempt.trans (registerRival ..)
    · exact hattempt
  simp only [Switchboard.openSession]
  split
  · exact refl sb
  · rcases openTransport_cases sb key tunnels with ⟨e, he⟩ | hok
    · rw [he]
      exact hattempt
    · rw [hok]
      dsimp only
      split
      · exact (hopening.trans (connect ..)).trans (wire ..)
      · exact (hopening.trans (connect ..)).trans (register ..)

/-! ## Tasks and runners -/

theorem checked (start : StartId) (key : SessionKey) (selection : Selection)
    (result : Except Failure Unit) : sb.Instant (sb.checked c start key selection result) := by
  unfold Switchboard.checked
  refine .trans ?_ (of_quiet (quiet_reportStart ..))
  cases result with
  | error e => exact of_roster rfl rfl
  | ok _ => exact (openSession sb c start key _).trans (of_roster rfl rfl)

theorem activate : sb.Instant (sb.activate c id) := by
  unfold Switchboard.activate
  split
  · split
    · exact (live_of_eq sb id (f := Life.activate) fun _ => rfl).trans (of_roster rfl rfl)
    · exact refl sb
  · exact refl sb

theorem retire (outcome : Outcome) : sb.Instant (sb.retire c id outcome) := by
  unfold Switchboard.retire
  split
  · dsimp only
    split <;> exact (cleanUp sb id).trans (of_roster rfl rfl)
  · exact refl sb

theorem applyTask : sb.Instant (sb.applyTask c) := by
  cases hwaiting : sb.waiting c with
  | nil => exact (applyTask_of_nil hwaiting).symm ▸ refl sb
  | cons task rest =>
    have hpopped : sb.Instant (sb.popTask c) := of_roster rfl rfl
    rw [applyTask_of_cons hwaiting]
    refine hpopped.trans ?_
    cases task with
    | resolved generation result => exact of_quiet (quiet_resolved ..)
    | portsRead generation pod result => exact of_quiet (quiet_portsRead ..)
    | checked start key selection result => exact checked ..
    | activate id => exact activate ..
    | retire id outcome => exact retire ..

theorem stepRunner : sb.Instant (sb.stepRunner id) := by
  rcases stepRunner_cases sb id with hidle | ⟨s, r, -, -, hready | hfails | hends⟩
  · rw [hidle]
    exact refl sb
  · have hentered := live_of_eq sb id (f := fun l => l.enter .forwarding) fun l =>
      launchedAt_enter l _
    rw [hready.2.2, runnerReady]
    split
    · exact hentered.trans (of_roster rfl rfl)
    · refine hentered.trans (live_of_eq _ id fun l => ?_)
      split <;> rfl
  · obtain ⟨outcome, sb', -, -, hsb', heq⟩ := hfails
    have hsame : sb.Instant sb' := by
      rcases hsb' with rfl | rfl <;> exact of_roster rfl rfl
    have haborted : (sb'.closeSession id).Instant ((sb'.closeSession id).live id fun l =>
        l.enter (.aborting outcome sb'.clock)) := live_of_eq _ id fun l => launchedAt_enter l _
    rw [heq]
    refine (hsame.trans (closeSession sb' id)).trans (haborted.trans ?_)
    exact (live_of_eq _ id fun l => launchedAt_setAlarm l _).trans (of_roster rfl rfl)
  · obtain ⟨outcome, -, heq⟩ := hends
    have hlive : sb.Instant (sb.live id fun l => (l.enter .ended).terminate) :=
      live_of_eq sb id fun l => launchedAt_enter l .ended
    have hended := hlive.trans (wire _ s.transport Transport.drop)
    rw [heq, runnerEnd]
    split
    · exact hended.trans (of_roster rfl rfl)
    · exact hended.trans (cleanUp _ id)

theorem confirmDeletion (dialog : Nat) : sb.Instant (sb.confirmDeletion c dialog) := by
  unfold Switchboard.confirmDeletion
  split
  · exact refl sb
  · rename_i d _
    have hstopped := foldl (sb.control c fun ctl => ctl.answerDeletion dialog) stopSession
      d.sessions
    have hanswered : sb.Instant (sb.control c fun ctl => ctl.answerDeletion dialog) :=
      of_roster rfl rfl
    dsimp only
    split <;> exact (hanswered.trans hstopped).trans (of_roster rfl rfl)

end Instant

/-- Every move takes no time, unless it is the passing of time. -/
theorem instant_step (wf : sb.registry.WellFormed) {m : Move} (hm : ∀ d, m ≠ .elapse d) :
    sb.Instant (sb.step m) := by
  cases m with
  | trigger c target => exact .of_quiet (quiet_trigger ..)
  | start c pod selection => exact .of_quiet (quiet_start ..)
  | confirmSelection c dialog selection => exact .of_quiet (quiet_confirmSelection ..)
  | cancelSelection c dialog => exact .of_quiet (quiet_cancelSelection ..)
  | confirmDeletion c dialog => exact .confirmDeletion ..
  | cancelDeletion c dialog => exact .of_quiet (quiet_cancelDeletion ..)
  | stop key =>
    cases hentry : sb.registry.entries.get? key with
    | none =>
      simp only [step, stop_of_none hentry]
      exact .refl sb
    | some id =>
      rw [step_stop_of_entry wf hentry]
      exact .stopSession sb id
  | stopAll => exact .foldl sb Instant.closeSession _
  | applyTask c => exact .applyTask sb c
  | finishJob place => exact .of_quiet (quiet_finishJob ..)
  | stepRunner id => exact .stepRunner sb id
  | elapse duration => exact absurd rfl (hm duration)
  | makeSession key tunnels plan =>
    simp only [step, makeSession]
    split
    · exact (Instant.connect ..).trans (.wire ..)
    · exact (Instant.connect ..).trans (.enroll ..)
  | add id =>
    simp only [step]
    cases hadd : sb.registry.add id with
    | error e => exact .refl sb
    | ok registry => exact .of_roster rfl (Registry.roster_add hadd)
  | delete key =>
    cases hentry : sb.registry.entries.get? key with
    | none =>
      simp only [step, Registry.delete_of_none hentry]
      exact .refl sb
    | some id =>
      simp only [step, wf.delete_eq hentry]
      exact .deleteSession sb id
  | deleteSession id => exact .deleteSession sb id
  | close id => exact .closeSession sb id
  | launch c id =>
    simp only [step]
    split
    · exact .launchRunner sb c id
    · exact .refl sb
  | _ => exact .of_roster rfl rfl

end Switchboard

end PodTunnels
