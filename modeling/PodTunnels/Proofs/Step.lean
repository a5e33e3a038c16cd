import PodTunnels.Proofs.Arrival
import PodTunnels.Proofs.Quiet

/-!
# What a move does to a session

Every move takes every session through one of the turns (`turn_step`), and keeps the registry
well-formed (`wellFormed_step`). Runners and tasks are each about one session, and the standing of
all others is left alone.
-/

namespace PodTunnels

namespace Switchboard

variable {sb : Switchboard} {id : SessionId} {c : ControllerId}

/-! ## Runners -/

section Runners

variable {id' : SessionId} {s : Session} {r : Runner} {outcome : Outcome}

/-- What the runner of a session can do in one step. -/
theorem stepRunner_cases (sb : Switchboard) (id : SessionId) :
    sb.stepRunner id = sb ∨
      ∃ s r, sb.session? id = some s ∧ s.runner = some r ∧
        ((r.phase = .waiting ∧ sb.readiness s.transport = some .success ∧
            sb.stepRunner id = sb.runnerReady id r) ∨
          (∃ outcome sb', r.phase = .waiting ∧ sb.Fails s r outcome ∧
            (sb' = sb ∨ sb' = sb.wire s.transport Transport.stopAwaiting) ∧
            sb.stepRunner id = sb'.runnerAbort id outcome) ∨
          ∃ outcome, sb.Ends s r outcome ∧
            sb.stepRunner id = sb.runnerEnd id s r outcome) := by
  cases hs : sb.session? id with
  | none => exact .inl (by simp [stepRunner, stepRunner?, hs])
  | some s =>
    cases hr : s.runner with
    | none => exact .inl (by simp [stepRunner, stepRunner?, hs, hr])
    | some r =>
      have hstep {sb' : Switchboard} (h : sb.stepRunner? id = some sb') :
          sb.stepRunner id = sb' := by
        rw [stepRunner, h]
        rfl
      have hidle (h : sb.stepRunner? id = none) : sb.stepRunner id = sb := by
        rw [stepRunner, h]
        rfl
      cases hphase : r.phase with
      | waiting =>
        cases hready : sb.readiness s.transport with
        | none =>
          by_cases hdue : r.readyDeadline ≤ sb.clock
          · refine .inr ⟨s, r, rfl, hr, .inr (.inl ⟨_, _, hphase, .late hready hdue, .inr rfl, ?_⟩)⟩
            exact hstep (by simp [stepRunner?, hs, hr, hphase, hready, hdue])
          · exact .inl (hidle (by simp [stepRunner?, hs, hr, hphase, hready, hdue]))
        | some report =>
          cases report with
          | success =>
            refine .inr ⟨s, r, rfl, hr, .inl ⟨hphase, hready, ?_⟩⟩
            exact hstep (by simp [stepRunner?, hs, hr, hphase, hready])
          | failed e =>
            refine .inr ⟨s, r, rfl, hr, .inr (.inl ⟨_, _, hphase, .reported hready, .inl rfl, ?_⟩)⟩
            exact hstep (by simp [stepRunner?, hs, hr, hphase, hready])
      | forwarding =>
        cases hending : sb.ending s.transport with
        | none => exact .inl (hidle (by simp [stepRunner?, hs, hr, hphase, hending]))
        | some outcome =>
          refine .inr ⟨s, r, rfl, hr, .inr (.inr ⟨_, .relaying hphase hending, ?_⟩)⟩
          exact hstep (by simp [stepRunner?, hs, hr, hphase, hending])
      | aborting outcome since =>
        by_cases hdone : (sb.ending s.transport).isSome ∨ since + Runner.closeGrace ≤ sb.clock
        · refine .inr ⟨s, r, rfl, hr, .inr (.inr ⟨_, .aborting hphase, ?_⟩)⟩
          exact hstep (by simp only [stepRunner?, hs, hr, hphase, bind, Option.bind, if_pos hdone])
        · refine .inl (hidle ?_)
          simp only [stepRunner?, hs, hr, hphase, bind, Option.bind, if_neg hdone]
      | ended => exact .inl (hidle (by simp [stepRunner?, hs, hr, hphase]))

theorem stepRunner_of_ready (hs : sb.session? id = some s) (hrunner : s.runner = some r)
    (hphase : r.phase = .waiting) (hready : sb.readiness s.transport = some .success) :
    sb.stepRunner id = sb.runnerReady id r := by
  simp [stepRunner, stepRunner?, hs, hrunner, hphase, hready]

/-- A runner that finds readiness hands the activation to the interface. -/
theorem standing_runnerReady (hhears : sb.hears r.controller = true) :
    (sb.runnerReady id r).standing id =
      ((sb.standing id).live fun l => l.enter .forwarding).queue r.controller (.activate id) := by
  have hhears' : (sb.live id fun l => l.enter .forwarding).hears r.controller = true := hhears
  have hposted := standing_post_self hhears' (.activate id) rfl
  simp only [runnerReady, show (sb.live id _).hears = sb.hears from rfl, hhears, if_true]
  rw [hposted, standing_live_self]

/-- Without an interface it carries the activation out. -/
theorem standing_runnerReady_alone (hdeaf : sb.hears r.controller = false) :
    (sb.runnerReady id r).standing id =
      ((sb.standing id).live fun l => l.enter .forwarding).live fun l =>
        if l.state = .starting then l.activate else l := by
  simp only [runnerReady, show (sb.live id _).hears = sb.hears from rfl, hdeaf,
    Bool.false_eq_true, if_false]
  rw [standing_live_self, standing_live_self]

theorem standing_runnerReady_of_ne (r : Runner) (hid : id ≠ id') :
    (sb.runnerReady id' r).standing id = sb.standing id := by
  have hlive := standing_live_of_ne sb id hid fun l => l.enter .forwarding
  have hother : (Task.activate id').session? ≠ some id := by
    simpa [Task.session?] using Ne.symm hid
  simp only [runnerReady]
  split
  · rw [standing_post_of_ne hother, hlive]
  · rw [standing_live_of_ne _ _ hid, hlive]

theorem turn_runnerReady (hs : sb.session? id' = some s) (hrunner : s.runner = some r)
    (hphase : r.phase = .waiting) (hready : sb.readiness s.transport = some .success)
    (id : SessionId) :
    sb.Turn id (.stepRunner id') ((sb.runnerReady id' r).standing id) := by
  by_cases hid : id = id'
  · subst hid
    cases hhears : sb.hears r.controller with
    | true =>
      rw [standing_runnerReady hhears]
      exact .ready hs hrunner hphase hready hhears
    | false =>
      rw [standing_runnerReady_alone hhears]
      exact .readyAlone hs hrunner hphase hready hhears
  · rw [standing_runnerReady_of_ne r hid]
    exact .rest

theorem turn_runnerAbort (hs : sb.session? id' = some s) (hrunner : s.runner = some r)
    (hphase : r.phase = .waiting) (hfails : sb.Fails s r outcome) {sb' : Switchboard}
    (hsb' : sb' = sb ∨ sb' = sb.wire s.transport Transport.stopAwaiting) (id : SessionId) :
    sb.Turn id (.stepRunner id') ((sb'.runnerAbort id' outcome).standing id) := by
  have hst : sb'.standing id = sb.standing id := by
    rcases hsb' with rfl | rfl <;> rfl
  have hclock : sb'.clock = sb.clock := by
    rcases hsb' with rfl | rfl <;> rfl
  have halarms : ((sb'.closeSession id').live id' fun l =>
      l.enter (.aborting outcome sb'.clock)).alarms = sb.alarms := by
    have hclose : (sb'.closeSession id').alarms = sb'.alarms := by
      unfold closeSession
      split
      · split <;> rfl
      · rfl
    rcases hsb' with rfl | rfl <;> exact hclose
  rw [runnerAbort, standing_setAlarm, standing_live, standing_closeSession, hst, hclock]
  split
  · rename_i hid
    subst hid
    rw [← hclock, halarms, hclock]
    exact .aborted hs hrunner hphase hfails
  · exact .rest

/-- A runner that ends hands the retirement to the interface. -/
theorem standing_runnerEnd (hhears : sb.hears r.controller = true) :
    (sb.runnerEnd id s r outcome).standing id =
      ((sb.standing id).live fun l => (l.enter .ended).terminate).queue r.controller
        (.retire id outcome) := by
  have hhears' : ((sb.live id fun l => (l.enter .ended).terminate).wire s.transport
      Transport.drop).hears r.controller = true := hhears
  have hposted := standing_post_self hhears' (.retire id outcome) rfl
  simp only [runnerEnd, show ((sb.live id _).wire _ _).hears = sb.hears from rfl, hhears, if_true]
  rw [hposted, standing_wire, standing_live_self]

theorem turn_runnerEnd (hs : sb.session? id' = some s) (hrunner : s.runner = some r)
    (hends : sb.Ends s r outcome) (id : SessionId) :
    sb.Turn id (.stepRunner id') ((sb.runnerEnd id' s r outcome).standing id) := by
  have hlive := standing_live sb id id' fun l => (l.enter .ended).terminate
  by_cases hid : id = id'
  · subst hid
    rw [if_pos rfl] at hlive
    cases hhears : sb.hears r.controller with
    | true =>
      rw [standing_runnerEnd hhears]
      exact .ended hs hrunner hends hhears
    | false =>
      simp only [runnerEnd, show ((sb.live id _).wire _ _).hears = sb.hears from rfl, hhears,
        Bool.false_eq_true, if_false]
      rw [standing_cleanUp, if_pos rfl, standing_wire, hlive]
      exact .endedAlone hs hrunner hends hhears
  · rw [if_neg hid] at hlive
    have hother : (Task.retire id' outcome).session? ≠ some id := by
      simpa [Task.session?] using Ne.symm hid
    simp only [runnerEnd]
    split
    · rw [standing_post_of_ne hother, standing_wire, hlive]
      exact .rest
    · rw [standing_cleanUp, if_neg hid, standing_wire, hlive]
      exact .rest

theorem turn_stepRunner (sb : Switchboard) (id id' : SessionId) :
    sb.Turn id (.stepRunner id') ((sb.stepRunner id').standing id) := by
  rcases stepRunner_cases sb id' with hidle | ⟨s, r, hs, hrunner, hready | hfails | hends⟩
  · rw [hidle]
    exact .rest
  · obtain ⟨hphase, hready, heq⟩ := hready
    rw [heq]
    exact turn_runnerReady hs hrunner hphase hready id
  · obtain ⟨outcome, sb', hphase, hfails, hsb', heq⟩ := hfails
    rw [heq]
    exact turn_runnerAbort hs hrunner hphase hfails hsb' id
  · obtain ⟨outcome, hends, heq⟩ := hends
    rw [heq]
    exact turn_runnerEnd hs hrunner hends id

end Runners

/-! ## Tasks -/

section Tasks

variable {id' : SessionId} {outcome : Outcome} {rest : List Task}

/-- An interface that comes to the activation of a session that is starting carries it out. -/
theorem standing_activate {s : Session} (hwaiting : sb.waiting c = .activate id :: rest)
    (hs : sb.session? id = some s) (hstate : s.state = .starting) :
    ((sb.popTask c).activate c id).standing id =
      (((sb.standing id).pop c).live Life.activate).tell
        [⟨c, .session id, .info (.activated s.pod s.firstTunnel.localPort)⟩,
          ⟨c, .session id, .dismiss⟩] := by
  have hsome : (sb.popTask c).session? id = some s := hs
  simp only [activate, hsome, if_pos hstate]
  rw [standing_notify_session, standing_notify_session, standing_live_self,
    standing_popTask_self hwaiting rfl]
  simp [Standing.tell]

theorem standing_activate_of_ne (hwaiting : sb.waiting c = .activate id' :: rest)
    (hid : id ≠ id') : ((sb.popTask c).activate c id').standing id = sb.standing id := by
  have hpop := standing_popTask_of_ne hwaiting
    (by simpa [Task.session?] using Ne.symm hid)
  have habout : Subject.session id' ≠ .session id := by simpa using Ne.symm hid
  unfold activate
  split
  · split
    · rw [standing_notify_of_ne _ _ _ habout, standing_notify_of_ne _ _ _ habout,
        standing_live_of_ne _ _ hid, hpop]
    · exact hpop
  · exact hpop

theorem turn_activate (hwaiting : sb.waiting c = .activate id' :: rest) (id : SessionId) :
    sb.Turn id (.applyTask c) (((sb.popTask c).activate c id').standing id) := by
  by_cases hid : id = id'
  · subst hid
    have hpop := standing_popTask_self hwaiting rfl
    cases hs : sb.session? id with
    | none =>
      have hnone : (sb.popTask c).session? id = none := hs
      simp only [activate, hnone]
      rw [hpop]
      exact .outlived hwaiting (by simp [hs])
    | some s =>
      by_cases hstate : s.state = .starting
      · rw [standing_activate hwaiting hs hstate]
        exact .activated hwaiting hs hstate
      · have hsome : (sb.popTask c).session? id = some s := hs
        simp only [activate, hsome, if_neg hstate]
        rw [hpop]
        refine .outlived hwaiting fun s' hs' => ?_
        rwa [← Option.some.inj (hs.symm.trans hs')]
  · rw [standing_activate_of_ne hwaiting hid]
    exact .rest

theorem turn_retire (hwaiting : sb.waiting c = .retire id' outcome :: rest) (id : SessionId) :
    sb.Turn id (.applyTask c) (((sb.popTask c).retire c id' outcome).standing id) := by
  by_cases hid : id = id'
  · subst hid
    have hpop := standing_popTask_self hwaiting rfl
    cases hs : sb.session? id with
    | none =>
      have hnone : (sb.popTask c).session? id = none := hs
      simp only [retire, hnone]
      rw [hpop]
      exact .missed hwaiting hs
    | some s =>
      have hsome : (sb.popTask c).session? id = some s := hs
      have hturn := Turn.retired hwaiting hs
      simp only [retire, hsome]
      rw [standing_notify_session]
      cases heffect : endEffect s outcome with
      | none =>
        rw [heffect] at hturn
        simpa [standing_cleanUp, hpop] using hturn
      | some effect =>
        rw [heffect] at hturn
        simpa [standing_cleanUp, hpop, Standing.tell] using hturn
  · have hpop := standing_popTask_of_ne hwaiting
      (by simpa [Task.session?] using Ne.symm hid)
    have habout : Subject.session id' ≠ .session id := by simpa using Ne.symm hid
    have hclean : ((sb.popTask c).cleanUp id').standing id = sb.standing id := by
      rw [standing_cleanUp, if_neg hid, hpop]
    have hother : ((sb.popTask c).retire c id' outcome).standing id = sb.standing id := by
      unfold retire
      split
      · rw [standing_notify_of_ne _ _ _ habout]
        split
        · rw [standing_notify_of_ne _ _ _ habout, hclean]
        · exact hclean
      · exact hpop
    rw [hother]
    exact .rest

theorem turn_checked (wf : sb.registry.WellFormed) {start : StartId} {key : SessionKey}
    {selection : Selection} {result : Except Failure Unit}
    (hwaiting : sb.waiting c = .checked start key selection result :: rest) (id : SessionId) :
    sb.Turn id (.applyTask c)
      (((sb.popTask c).checked c start key selection result).standing id) := by
  have hpop : (sb.popTask c).standing id = sb.standing id :=
    standing_popTask_of_ne hwaiting (by simp [Task.session?])
  obtain ⟨ctl, hctl, -⟩ := exists_controller_of_waiting hwaiting
  have hctl' : (sb.popTask c).controllers[c]? =
      some { ctl with queue := { ctl.queue with waiting := ctl.queue.waiting.tail } } := by
    simp [popTask, control, hctl]
  simp only [checked, (quiet_reportStart ..).standing, standing_release]
  cases result with
  | error e =>
    simp only [hpop]
    exact .rest
  | ok _ =>
    have hreg : (sb.popTask c).registry = sb.registry := rfl
    exact turn_openSession wf hreg hpop hctl' start key selection.tunnels

theorem turn_applyTask (wf : sb.registry.WellFormed) (c : ControllerId) (id : SessionId) :
    sb.Turn id (.applyTask c) ((sb.applyTask c).standing id) := by
  cases hwaiting : sb.waiting c with
  | nil =>
    rw [applyTask_of_nil hwaiting]
    exact .rest
  | cons task rest =>
    rw [applyTask_of_cons hwaiting]
    cases task with
    | resolved generation result =>
      rw [perform, (quiet_resolved ..).standing,
        standing_popTask_of_ne hwaiting (by simp [Task.session?])]
      exact .rest
    | portsRead generation pod result =>
      rw [perform, (quiet_portsRead ..).standing,
        standing_popTask_of_ne hwaiting (by simp [Task.session?])]
      exact .rest
    | checked start key selection result => exact turn_checked wf hwaiting id
    | activate id' => exact turn_activate hwaiting id
    | retire id' outcome => exact turn_retire hwaiting id

end Tasks

/-! ## Moves -/

section Moves

variable {key : SessionKey}

/-- A stop by key stops the session that is registered there. -/
theorem stop_of_entry (wf : sb.registry.WellFormed)
    (hentry : sb.registry.entries.get? key = some id) :
    sb.stop key = .ok (sb.stopSession id) := by
  simp only [stop, wf.delete_eq hentry, stopSession]

theorem stop_of_none (hentry : sb.registry.entries.get? key = none) :
    sb.stop key = .error (.notFound key) := by
  simp only [stop, Registry.delete_of_none hentry]

theorem step_stop_of_entry (wf : sb.registry.WellFormed)
    (hentry : sb.registry.entries.get? key = some id) :
    sb.step (.stop key) = sb.stopSession id := by
  simp only [step, stop_of_entry wf hentry]
  rfl

theorem turn_stop (wf : sb.registry.WellFormed) (key : SessionKey) (id : SessionId) :
    sb.Turn id (.stop key) ((sb.step (.stop key)).standing id) := by
  cases hentry : sb.registry.entries.get? key with
  | none =>
    simp only [step, stop_of_none hentry]
    exact .rest
  | some id' =>
    rw [step_stop_of_entry wf hentry, standing_stopSession]
    split
    · rename_i hid
      exact .stopped (.key (hid ▸ hentry))
    · exact .rest

/-- A confirmed question stops the sessions that are listed in it. -/
theorem standing_confirmDeletion {dialog : Nat} {d : DeletionDialog}
    (hopen : (sb.controllers[c]?.bind fun ctl => ctl.openDeletion? dialog) = some d) :
    (sb.confirmDeletion c dialog).standing id =
      if id ∈ d.sessions then (sb.standing id).quit else sb.standing id := by
  have hstopped := standing_foldl_stopSession
    (sb.control c fun ctl => ctl.answerDeletion dialog) id d.sessions
  have hanswer : (sb.control c fun ctl => ctl.answerDeletion dialog).standing id =
      sb.standing id := standing_control _ _ _ fun _ => rfl
  rw [hanswer] at hstopped
  simp only [confirmDeletion, hopen]
  rw [standing_notify_flow]
  split
  · rw [standing_notify_flow, standing_advance, hstopped]
  · exact hstopped

theorem turn_confirmDeletion (sb : Switchboard) (c : ControllerId) (dialog : Nat)
    (id : SessionId) :
    sb.Turn id (.confirmDeletion c dialog) ((sb.confirmDeletion c dialog).standing id) := by
  cases hopen : sb.controllers[c]?.bind fun ctl => ctl.openDeletion? dialog with
  | none =>
    simp only [confirmDeletion, hopen]
    exact .rest
  | some d =>
    obtain ⟨ctl, hctl, hd⟩ := Option.bind_eq_some_iff.1 hopen
    rw [standing_confirmDeletion hopen]
    split
    · rename_i hlisted
      exact .stopped (.deletion hctl hd hlisted)
    · exact .rest

theorem turn_makeSession (wf : sb.registry.WellFormed) (key : SessionKey) (tunnels : List Tunnel)
    (plan : Plan) (id : SessionId) :
    sb.Turn id (.makeSession key tunnels plan) ((sb.makeSession key tunnels plan).standing id) := by
  simp only [makeSession]
  split
  · exact .rest
  · rw [standing_enroll (show ((sb.connect _).2).registry.WellFormed from wf), connect_registry,
      standing_connect]
    split
    · rename_i hid
      subst hid
      exact turn_created Registry.session?_length .idle
    · exact .rest

theorem turn_add (sb : Switchboard) (id' id : SessionId) :
    sb.Turn id (.add id') ((sb.step (.add id')).standing id) := by
  cases hs : sb.session? id' with
  | none =>
    simp only [step, Registry.add_of_none hs]
    exact .rest
  | some s =>
    cases hlookup : sb.registry.lookup s.key with
    | some id'' =>
      simp only [step, Registry.add_of_lookup_some hs hlookup]
      exact .rest
    | none =>
      simp only [step, Registry.add_of_lookup_none hs hlookup]
      change sb.Turn id (.add id') (Switchboard.standing
        { sb with registry :=
          { sb.registry with entries := sb.registry.entries.insert s.key id' } } id)
      rw [standing_insert hs]
      split
      · rename_i hid
        subst hid
        exact .added hs hlookup
      · exact turn_of_key_taken hlookup _ id

theorem turn_delete (wf : sb.registry.WellFormed) (key : SessionKey) (id : SessionId) :
    sb.Turn id (.delete key) ((sb.step (.delete key)).standing id) := by
  cases hentry : sb.registry.entries.get? key with
  | none =>
    simp only [step, Registry.delete_of_none hentry]
    exact .rest
  | some id' =>
    simp only [step, wf.delete_eq hentry]
    change sb.Turn id (.delete key) (Switchboard.standing
      { sb with registry := sb.registry.deleteSession id' } id)
    rw [standing_deleteSession]
    split
    · exact .deleted
    · exact .rest

theorem exists_of_isUnlaunched (h : sb.isUnlaunched id = true) :
    ∃ s, sb.session? id = some s ∧ s.runner = none := by
  cases hs : sb.session? id with
  | none => simp [isUnlaunched, hs] at h
  | some s =>
    refine ⟨s, rfl, ?_⟩
    simp only [isUnlaunched, hs, Option.any_some, Bool.and_eq_true] at h
    exact Option.isNone_iff_eq_none.1 h.1

theorem turn_launch (sb : Switchboard) (c : ControllerId) (id' id : SessionId) :
    sb.Turn id (.launch c id') ((sb.step (.launch c id')).standing id) := by
  cases hunlaunched : sb.isUnlaunched id' with
  | false =>
    simp only [step, hunlaunched, Bool.false_eq_true, if_false]
    exact .rest
  | true =>
    simp only [step, hunlaunched, if_true]
    cases hctl : sb.controllers[c]? with
    | none =>
      simp only [launchRunner, hctl]
      exact .rest
    | some ctl =>
      rw [standing_launchRunner hctl]
      split
      · rename_i hid
        subst hid
        obtain ⟨s, hs, hidle⟩ := exists_of_isUnlaunched hunlaunched
        let r : Runner :=
          { controller := c, readySeconds := ctl.readySeconds, launchedAt := sb.clock,
            alarm := sb.alarms }
        exact Turn.launched (r := r) hs hidle rfl
      · exact .rest

/-- A move takes every session through a turn. -/
theorem turn_step (wf : sb.registry.WellFormed) (m : Move) (id : SessionId) :
    sb.Turn id m ((sb.step m).standing id) := by
  cases m with
  | trigger c target =>
    rw [step, (quiet_trigger ..).standing]
    exact .rest
  | start c pod selection =>
    rw [step, (quiet_start ..).standing]
    exact .rest
  | confirmSelection c dialog selection =>
    rw [step, (quiet_confirmSelection ..).standing]
    exact .rest
  | cancelSelection c dialog =>
    rw [step, (quiet_cancelSelection ..).standing]
    exact .rest
  | confirmDeletion c dialog => exact turn_confirmDeletion sb c dialog id
  | cancelDeletion c dialog =>
    rw [step, (quiet_cancelDeletion ..).standing]
    exact .rest
  | stop key => exact turn_stop wf key id
  | stopAll =>
    rw [step, stopAll, standing_foldl_closeSession]
    split
    · rename_i hreg
      exact .closedAll hreg
    · exact .rest
  | applyTask c => exact turn_applyTask wf c id
  | closeInterface c =>
    rw [standing_closeInterface]
    exact .shut
  | finishJob place =>
    rw [step, (quiet_finishJob ..).standing]
    exact .rest
  | stepRunner id' => exact turn_stepRunner sb id id'
  | signalReady t outcome => exact .rest
  | signalFinish t outcome => exact .rest
  | elapse duration => exact .rest
  | hold place => exact .rest
  | unhold place => exact .rest
  | setCluster cluster => exact .rest
  | makeSession key tunnels plan => exact turn_makeSession wf key tunnels plan id
  | add id' => exact turn_add sb id' id
  | delete key => exact turn_delete wf key id
  | deleteSession id' =>
    rw [step, standing_deleteSession]
    split
    · rename_i hid
      subst hid
      exact .deletedSession
    · exact .rest
  | close id' =>
    rw [step, standing_closeSession]
    split
    · rename_i hid
      subst hid
      exact .closed
    · exact .rest
  | launch c id' => exact turn_launch sb c id' id

end Moves

/-! ## The registry stays well-formed -/

section WellFormed

variable {key : SessionKey}

theorem wellFormed_stopSession (wf : sb.registry.WellFormed) (id : SessionId) :
    (sb.stopSession id).registry.WellFormed :=
  wellFormed_closeSession (wellFormed_live (wf.deleteSession id) id _) id

theorem wellFormed_cleanUp (wf : sb.registry.WellFormed) (id : SessionId) :
    (sb.cleanUp id).registry.WellFormed := by
  unfold cleanUp
  split
  · split
    · exact wf
    · exact (wf.deleteSession id).live id _
  · exact wf

theorem wellFormed_applyTask (wf : sb.registry.WellFormed) (c : ControllerId) :
    (sb.applyTask c).registry.WellFormed := by
  cases hwaiting : sb.waiting c with
  | nil => rwa [applyTask_of_nil hwaiting]
  | cons task rest =>
    rw [applyTask_of_cons hwaiting]
    cases task with
    | resolved generation result => rwa [perform, (quiet_resolved ..).registry]
    | portsRead generation pod result => rwa [perform, (quiet_portsRead ..).registry]
    | checked start key selection result =>
      simp only [perform, checked, (quiet_reportStart ..).registry]
      cases result with
      | error e => exact wf
      | ok _ =>
        have wf' : (sb.popTask c).registry.WellFormed := wf
        exact wellFormed_openSession wf' c start key selection.tunnels
    | activate id =>
      simp only [perform, activate]
      split
      · split
        · exact wf.live id _
        · exact wf
      · exact wf
    | retire id outcome =>
      have wf' : (sb.popTask c).registry.WellFormed := wf
      have hclean := wellFormed_cleanUp wf' id
      simp only [perform, retire]
      split
      · split <;> exact hclean
      · exact wf

theorem wellFormed_stepRunner (wf : sb.registry.WellFormed) (id : SessionId) :
    (sb.stepRunner id).registry.WellFormed := by
  rcases stepRunner_cases sb id with hidle | ⟨s, r, -, -, hready | hfails | hends⟩
  · rwa [hidle]
  · rw [hready.2.2, runnerReady]
    split
    · exact wf.live id _
    · exact (wf.live id _).live id _
  · obtain ⟨outcome, sb', -, -, hsb', heq⟩ := hfails
    have wf' : sb'.registry.WellFormed := by
      rcases hsb' with rfl | rfl <;> exact wf
    rw [heq]
    exact ((wellFormed_closeSession wf' id).live id _).live id _
  · obtain ⟨outcome, -, heq⟩ := hends
    rw [heq, runnerEnd]
    split
    · exact wf.live id _
    · exact wellFormed_cleanUp (wf.live id _) id

/-- No move breaks the registry. -/
theorem wellFormed_step (wf : sb.registry.WellFormed) (m : Move) :
    (sb.step m).registry.WellFormed := by
  cases m with
  | trigger c target => rwa [step, (quiet_trigger ..).registry]
  | start c pod selection => rwa [step, (quiet_start ..).registry]
  | confirmSelection c dialog selection => rwa [step, (quiet_confirmSelection ..).registry]
  | cancelSelection c dialog => rwa [step, (quiet_cancelSelection ..).registry]
  | confirmDeletion c dialog =>
    rw [step, confirmDeletion]
    split
    · exact wf
    · rename_i d _
      have hstopped : (d.sessions.foldl stopSession
          (sb.control c fun ctl => ctl.answerDeletion dialog)).registry.WellFormed :=
        List.foldlRecOn (motive := fun sb : Switchboard => sb.registry.WellFormed) _ _ wf
          fun _ wf id _ => wellFormed_stopSession wf id
      dsimp only
      split <;> exact hstopped
  | cancelDeletion c dialog => rwa [step, (quiet_cancelDeletion ..).registry]
  | stop key =>
    cases hentry : sb.registry.entries.get? key with
    | none =>
      simp only [step, stop_of_none hentry]
      exact wf
    | some id =>
      rw [step_stop_of_entry wf hentry]
      exact wellFormed_stopSession wf id
  | stopAll =>
    exact List.foldlRecOn (motive := fun sb : Switchboard => sb.registry.WellFormed) _
      closeSession wf fun _ wf id _ => wellFormed_closeSession wf id
  | applyTask c => exact wellFormed_applyTask wf c
  | closeInterface c => exact wf
  | finishJob place => rwa [step, (quiet_finishJob ..).registry]
  | stepRunner id => exact wellFormed_stepRunner wf id
  | signalReady t outcome => exact wf
  | signalFinish t outcome => exact wf
  | elapse duration => exact wf
  | hold place => exact wf
  | unhold place => exact wf
  | setCluster cluster => exact wf
  | makeSession key tunnels plan =>
    simp only [step, makeSession]
    split
    · exact wf
    · exact wf.enroll _
  | add id =>
    simp only [step]
    cases hadd : sb.registry.add id with
    | error e => exact wf
    | ok registry => exact wf.add hadd
  | delete key =>
    cases hentry : sb.registry.entries.get? key with
    | none =>
      simp only [step, Registry.delete_of_none hentry]
      exact wf
    | some id =>
      simp only [step, wf.delete_eq hentry]
      exact wf.deleteSession id
  | deleteSession id => exact wf.deleteSession id
  | close id => exact wellFormed_closeSession wf id
  | launch c id =>
    simp only [step]
    split
    · exact wellFormed_launchRunner wf c id
    · exact wf

end WellFormed

end Switchboard

end PodTunnels
