import PodTunnels.Proofs.Standing

/-!
# Turns

A turn is what one move does to the standing of one session. There are few kinds of turns: a move
may not concern the session at all, or be one of the events of its life. Each kind names the move
that brings it about and what must have been the case, so that a property of sessions is shown to
hold along every run by looking at the kinds of turns (`turn_step`) and at nothing else.

Two kinds of moves have names of their own, because properties speak of them: a move that stops a
session on a user's word, and a move that carries out its activation.
-/

namespace PodTunnels

namespace Switchboard

/-- A move stops a session on a user's word: it names the key under which the session is
registered, or it confirms a question in which the session is listed. -/
inductive Stops (sb : Switchboard) (id : SessionId) : Move → Prop
  | key {key : SessionKey} (hentry : sb.registry.entries.get? key = some id) :
      Stops sb id (.stop key)
  | deletion {c : ControllerId} {dialog : Nat} {ctl : Controller} {d : DeletionDialog}
      (hctl : sb.controllers[c]? = some ctl) (hopen : ctl.openDeletion? dialog = some d)
      (hlisted : id ∈ d.sessions) : Stops sb id (.confirmDeletion c dialog)

/-- A move carries out the activation of a session that is still starting: an interface applies it,
or the runner finds readiness and no interface. -/
inductive Activates (sb : Switchboard) (id : SessionId) : Move → Prop
  | applied {c : ControllerId} {rest : List Task} {s : Session}
      (hwaiting : sb.waiting c = .activate id :: rest) (hs : sb.session? id = some s)
      (hstate : s.state = .starting) : Activates sb id (.applyTask c)
  | alone {s : Session} {r : Runner} (hs : sb.session? id = some s) (hrunner : s.runner = some r)
      (hphase : r.phase = .waiting) (hready : sb.readiness s.transport = some .success)
      (hdeaf : sb.hears r.controller = false) (hstate : s.state = .starting) :
      Activates sb id (.stepRunner id)

/-- How a new session comes onto the roster: with which life, registered or not, by which move. -/
inductive Birth (sb : Switchboard) (key : SessionKey) : Move → Life → Bool → Prop
  /-- Nobody runs it, and it is not registered. -/
  | idle {m : Move} : Birth sb key m {} false
  /-- Somebody else registered it under a free key. -/
  | rival {m : Move} (hfree : sb.registry.lookup key = none) : Birth sb key m {} true
  /-- Its start found the key taken. -/
  | refused {m : Move} : Birth sb key m { closeRequested := true } false
  /-- It was registered under a free key and launched. -/
  | started {c : ControllerId} {r : Runner} (hfree : sb.registry.lookup key = none)
      (hcontroller : r.controller = c) (hphase : r.phase = .waiting) :
      Birth sb key (.applyTask c) { runner := some r } true

/-- The runner of a session ends with an outcome. -/
inductive Ends (sb : Switchboard) (s : Session) (r : Runner) : Outcome → Prop
  | relaying {outcome : Outcome} (hphase : r.phase = .forwarding)
      (hending : sb.ending s.transport = some outcome) :
      Ends sb s r (excuse s.closeRequested outcome)
  | aborting {outcome : Outcome} {since : Nat} (hphase : r.phase = .aborting outcome since) :
      Ends sb s r outcome

/-- The start of a session fails with an outcome. -/
inductive Fails (sb : Switchboard) (s : Session) (r : Runner) : Outcome → Prop
  | reported {e : Failure} (hreadiness : sb.readiness s.transport = some (.failed e)) :
      Fails sb s r (excuse s.closeRequested (.failed e))
  | late (hreadiness : sb.readiness s.transport = none) (hdue : r.readyDeadline ≤ sb.clock) :
      Fails sb s r (.failed (notReady s.key r.readySeconds))

/-- What a move does to the standing of a session. -/
inductive Turn (sb : Switchboard) (id : SessionId) : Move → Standing → Prop
  /-- The move is about something else. -/
  | rest {m : Move} : Turn sb id m (sb.standing id)
  | created {m : Move} {w : Wiring} {l : Life} {registered : Bool} (hnone : sb.session? id = none)
      (hbirth : sb.Birth w.key m l registered) :
      Turn sb id m
        { sb.standing id with session := some { toWiring := w, toLife := l }, registered }
  /-- The session is no longer live, and another one gets its key. -/
  | displaced {m : Move} {s : Session} (hs : sb.session? id = some s) (hdead : s.isLive = false) :
      Turn sb id m ((sb.standing id).register false)
  | added {s : Session} (hs : sb.session? id = some s) (hfree : sb.registry.lookup s.key = none) :
      Turn sb id (.add id) ((sb.standing id).register true)
  | deleted {key : SessionKey} : Turn sb id (.delete key) ((sb.standing id).register false)
  | deletedSession : Turn sb id (.deleteSession id) ((sb.standing id).register false)
  | shut {c : ControllerId} : Turn sb id (.closeInterface c) ((sb.standing id).shut c)
  | closed : Turn sb id (.close id) ((sb.standing id).live Life.requestClose)
  | closedAll (hreg : id ∈ sb.registry.sessions) :
      Turn sb id .stopAll ((sb.standing id).live Life.requestClose)
  | stopped {m : Move} (hstops : sb.Stops id m) : Turn sb id m (sb.standing id).quit
  | launched {s : Session} {r : Runner} (hs : sb.session? id = some s) (hrunner : s.runner = none)
      (hphase : r.phase = .waiting) :
      Turn sb id (.launch r.controller id) ((sb.standing id).live fun l => l.launch r)
  | activated {c : ControllerId} {rest : List Task} {s : Session}
      (hwaiting : sb.waiting c = .activate id :: rest) (hs : sb.session? id = some s)
      (hstate : s.state = .starting) :
      Turn sb id (.applyTask c)
        ((((sb.standing id).pop c).live Life.activate).tell
          [⟨c, .session id, .info (.activated s.pod s.firstTunnel.localPort)⟩,
            ⟨c, .session id, .dismiss⟩])
  /-- The session is past its start when the interface comes to its activation. -/
  | outlived {c : ControllerId} {rest : List Task}
      (hwaiting : sb.waiting c = .activate id :: rest)
      (hlate : ∀ s, sb.session? id = some s → s.state ≠ .starting) :
      Turn sb id (.applyTask c) ((sb.standing id).pop c)
  | retired {c : ControllerId} {rest : List Task} {outcome : Outcome} {s : Session}
      (hwaiting : sb.waiting c = .retire id outcome :: rest) (hs : sb.session? id = some s) :
      Turn sb id (.applyTask c)
        (((sb.standing id).pop c).cleanUp.tell
          (((endEffect s outcome).toList ++ [Effect.refresh]).map fun e => ⟨c, .session id, e⟩))
  /-- The session of a retirement does not exist. -/
  | missed {c : ControllerId} {rest : List Task} {outcome : Outcome}
      (hwaiting : sb.waiting c = .retire id outcome :: rest) (hnone : sb.session? id = none) :
      Turn sb id (.applyTask c) ((sb.standing id).pop c)
  | ready {s : Session} {r : Runner} (hs : sb.session? id = some s) (hrunner : s.runner = some r)
      (hphase : r.phase = .waiting) (hready : sb.readiness s.transport = some .success)
      (hhears : sb.hears r.controller = true) :
      Turn sb id (.stepRunner id)
        (((sb.standing id).live fun l => l.enter .forwarding).queue r.controller (.activate id))
  | readyAlone {s : Session} {r : Runner} (hs : sb.session? id = some s)
      (hrunner : s.runner = some r) (hphase : r.phase = .waiting)
      (hready : sb.readiness s.transport = some .success)
      (hdeaf : sb.hears r.controller = false) :
      Turn sb id (.stepRunner id)
        (((sb.standing id).live fun l => l.enter .forwarding).live fun l =>
          if l.state = .starting then l.activate else l)
  | aborted {s : Session} {r : Runner} {outcome : Outcome} (hs : sb.session? id = some s)
      (hrunner : s.runner = some r) (hphase : r.phase = .waiting) (hfails : sb.Fails s r outcome) :
      Turn sb id (.stepRunner id)
        ((((sb.standing id).live Life.requestClose).live fun l =>
          l.enter (.aborting outcome sb.clock)).live fun l => l.setAlarm sb.alarms)
  | ended {s : Session} {r : Runner} {outcome : Outcome} (hs : sb.session? id = some s)
      (hrunner : s.runner = some r) (hends : sb.Ends s r outcome)
      (hhears : sb.hears r.controller = true) :
      Turn sb id (.stepRunner id)
        (((sb.standing id).live fun l => (l.enter .ended).terminate).queue r.controller
          (.retire id outcome))
  | endedAlone {s : Session} {r : Runner} {outcome : Outcome} (hs : sb.session? id = some s)
      (hrunner : s.runner = some r) (hends : sb.Ends s r outcome)
      (hdeaf : sb.hears r.controller = false) :
      Turn sb id (.stepRunner id)
        ((sb.standing id).live fun l => (l.enter .ended).terminate).cleanUp

end Switchboard

end PodTunnels
