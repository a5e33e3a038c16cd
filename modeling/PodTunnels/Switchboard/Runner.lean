import PodTunnels.Switchboard.Basic

/-!
# Runners at work

A runner takes its session from readiness to retirement. While it waits, a report of readiness
makes it hand the activation to the interface and go on to relaying; a report of failure, or the
end of the time for readiness, makes it close the transport and give that some grace to end. When
the transport has ended, the session is terminating and its retirement is handed to the interface.

A close that was asked for turns a failing end into a good one. Whether it was asked for is looked
at when a readiness failure is seen and when a relaying transport has ended; a start that ran out of
time is a failure in any case.

Where the interface is gone, a runner does on its own what it would have handed over.
-/

namespace PodTunnels

namespace Switchboard

/-- The failure of a start that ran out of time. -/
def notReady (key : SessionKey) (seconds : Nat) : Failure :=
  .transport (key.render ++ " did not become ready within " ++ toString seconds ++ "s")

/-- An outcome as it counts for a session whose close was asked for or not. -/
def excuse (requested : Bool) (outcome : Outcome) : Outcome :=
  if requested then .success else outcome

/-- The tunnels of a session forward: the interface marks it active, unless it has ended. -/
def activate (sb : Switchboard) (c : ControllerId) (id : SessionId) : Switchboard :=
  match sb.session? id with
  | some s =>
    if s.state = .starting then
      ((sb.live id Life.activate).notify c (.session id)
        (.info (.activated s.pod s.firstTunnel.localPort))).notify c (.session id) .dismiss
    else sb
  | none => sb

def cleanUp (sb : Switchboard) (id : SessionId) : Switchboard :=
  match sb.session? id with
  | some s =>
    if s.retired then sb
    else { sb with registry := (sb.registry.deleteSession id).live id Life.retire }
  | none => sb

/-- The notice about the end of a session, if there is to be one. -/
def endEffect (s : Session) : Outcome → Option Effect
  | .failed e => some (.error e)
  | .success => if s.closeRequested then none else some (.info (.closed s.key))

/-- The runner of a session has ended: the interface cleans up and says so. -/
def retire (sb : Switchboard) (c : ControllerId) (id : SessionId) (outcome : Outcome) :
    Switchboard :=
  match sb.session? id with
  | some s =>
    let after := sb.cleanUp id
    let told :=
      match endEffect s outcome with
      | some effect => after.notify c (.session id) effect
      | none => after
    told.notify c (.session id) .refresh
  | none => sb

def runnerReady (sb : Switchboard) (id : SessionId) (r : Runner) : Switchboard :=
  let sb := sb.live id fun l => l.enter .forwarding
  if sb.hears r.controller then sb.post r.controller (.activate id)
  else sb.live id fun l => if l.state = .starting then l.activate else l

/-- A start failed: the transport is closed, and the runner waits for its end. -/
def runnerAbort (sb : Switchboard) (id : SessionId) (outcome : Outcome) : Switchboard :=
  ((sb.closeSession id).live id fun l => l.enter (.aborting outcome sb.clock)).setAlarm id

def runnerEnd (sb : Switchboard) (id : SessionId) (s : Session) (r : Runner) (outcome : Outcome) :
    Switchboard :=
  let sb := (sb.live id fun l => (l.enter .ended).terminate).wire s.transport Transport.drop
  if sb.hears r.controller then sb.post r.controller (.retire id outcome) else sb.cleanUp id

/-- One step of the runner of a session; `none` when it has nothing to do for now. -/
def stepRunner? (sb : Switchboard) (id : SessionId) : Option Switchboard := do
  let s ← sb.session? id
  let r ← s.runner
  match r.phase with
  | .waiting =>
    match sb.readiness s.transport with
    | some .success => some (sb.runnerReady id r)
    | some (.failed e) => some (sb.runnerAbort id (excuse s.closeRequested (.failed e)))
    | none =>
      if r.readyDeadline ≤ sb.clock then
        some ((sb.wire s.transport Transport.stopAwaiting).runnerAbort id
          (.failed (notReady s.key r.readySeconds)))
      else none
  | .forwarding =>
    match sb.ending s.transport with
    | some outcome => some (sb.runnerEnd id s r (excuse s.closeRequested outcome))
    | none => none
  | .aborting outcome since =>
    if (sb.ending s.transport).isSome ∨ since + Runner.closeGrace ≤ sb.clock then
      some (sb.runnerEnd id s r outcome)
    else none
  | .ended => none

/-- The step of a runner, or nothing when it cannot take one. -/
def stepRunner (sb : Switchboard) (id : SessionId) : Switchboard :=
  (sb.stepRunner? id).getD sb

end Switchboard

end PodTunnels
