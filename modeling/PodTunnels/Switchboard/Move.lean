import PodTunnels.Switchboard.Dialog
import PodTunnels.Switchboard.Runner

/-!
# Moves

A move is one indivisible step of the switchboard: a call from an interface, the application of one
queued task, the end of one background job, one step of one runner, a signal to a transport, the
passing of time, or a change of the surroundings. A run is any sequence of moves. No order is
presumed between them, so whatever holds along every run holds for every way in which interfaces,
jobs, runners and the world outside may be interleaved.

A move that has nothing to act on changes nothing.
-/

namespace PodTunnels

/-- One indivisible step. -/
inductive Move where
  /-- Begin a dialog flow for a target. -/
  | trigger (c : ControllerId) (target : Target)
  /-- Start a forward without a dialog. -/
  | start (c : ControllerId) (pod : ResourcePath) (selection : Selection)
  | confirmSelection (c : ControllerId) (dialog : Nat) (selection : Selection)
  | cancelSelection (c : ControllerId) (dialog : Nat)
  | confirmDeletion (c : ControllerId) (dialog : Nat)
  | cancelDeletion (c : ControllerId) (dialog : Nat)
  | stop (key : SessionKey)
  | stopAll
  /-- The interface of a controller applies its first waiting task. -/
  | applyTask (c : ControllerId)
  /-- The interface of a controller shuts down. -/
  | closeInterface (c : ControllerId)
  /-- The background job at a place of the list of jobs comes to its end. -/
  | finishJob (place : Nat)
  | stepRunner (session : SessionId)
  | signalReady (t : TransportId) (outcome : Outcome)
  | signalFinish (t : TransportId) (outcome : Outcome)
  /-- Time passes, in milliseconds. -/
  | elapse (duration : Nat)
  /-- Somebody takes a local port. -/
  | hold (place : LocalEnd)
  /-- Somebody gives a local port back. -/
  | unhold (place : LocalEnd)
  | setCluster (cluster : Cluster)
  /-- Make a session on a transport of its own, without registering it. -/
  | makeSession (key : SessionKey) (tunnels : List Tunnel) (plan : Plan)
  | add (session : SessionId)
  | delete (key : SessionKey)
  | deleteSession (session : SessionId)
  | close (session : SessionId)
  /-- Launch a runner for a session that was made without one. -/
  | launch (c : ControllerId) (session : SessionId)

namespace Switchboard

/-- The outcome of a background job, handed to the interface that waits for it. -/
def runJob (sb : Switchboard) : Job → Switchboard
  | .resolve c generation route path =>
    let (result, requests) := sb.surroundings.cluster.ask (route.resolve path)
    { sb with requests := sb.requests ++ requests }.post c (.resolved generation result)
  | .readPorts c generation pod =>
    let (result, requests) := sb.surroundings.cluster.ask (fetchPodPorts pod)
    { sb with requests := sb.requests ++ requests }.post c (.portsRead generation pod result)
  | .checkPorts c start key selection =>
    let result := checkTunnels sb.surroundings.held selection.tunnels
    sb.post c (.checked start key selection result)

def finishJob (sb : Switchboard) (place : Nat) : Switchboard :=
  match sb.jobs[place]? with
  | some job => { sb with jobs := sb.jobs.eraseIdx place }.runJob job
  | none => sb

def perform (sb : Switchboard) (c : ControllerId) : Task → Switchboard
  | .resolved generation result => sb.resolved c generation result
  | .portsRead generation pod result => sb.portsRead c generation pod result
  | .checked start key selection result => sb.checked c start key selection result
  | .activate id => sb.activate c id
  | .retire id outcome => sb.retire c id outcome

/-- Apply the first waiting task of an interface. -/
def applyTask (sb : Switchboard) (c : ControllerId) : Switchboard :=
  match sb.controllers[c]?.bind fun ctl => ctl.queue.pop? with
  | some (task, queue) => (sb.control c fun ctl => { ctl with queue }).perform c task
  | none => sb

def signalReady (sb : Switchboard) (t : TransportId) (outcome : Outcome) : Switchboard :=
  sb.wire t fun tr => if tr.takesReady then { tr with readySignal := some outcome } else tr

def signalFinish (sb : Switchboard) (t : TransportId) (outcome : Outcome) : Switchboard :=
  sb.wire t fun tr => if tr.takesFinish then { tr with finishSignal := some outcome } else tr

/-- Make a session on a transport of its own. -/
def makeSession (sb : Switchboard) (key : SessionKey) (tunnels : List Tunnel) (plan : Plan) :
    Switchboard :=
  let (t, sb) := sb.connect { key, tunnels, occasion := .direct, plan }
  if h : tunnels = [] then sb.wire t Transport.drop
  else (sb.enroll { key, tunnels, tunnels_ne_nil := h, transport := t }).2

/-- Whether a session was made without a runner and can be given one. -/
def isUnlaunched (sb : Switchboard) (id : SessionId) : Bool :=
  (sb.session? id).any fun s =>
    s.runner.isNone && sb.transports[s.transport]?.any fun t => t.occasion = .direct

def step (sb : Switchboard) : Move → Switchboard
  | .trigger c target => sb.trigger c target
  | .start c pod selection => sb.start c pod selection
  | .confirmSelection c dialog selection => sb.confirmSelection c dialog selection
  | .cancelSelection c dialog => sb.cancelSelection c dialog
  | .confirmDeletion c dialog => sb.confirmDeletion c dialog
  | .cancelDeletion c dialog => sb.cancelDeletion c dialog
  | .stop key => (sb.stop key).toOption.getD sb
  | .stopAll => sb.stopAll
  | .applyTask c => sb.applyTask c
  | .closeInterface c => sb.control c fun ctl => { ctl with queue := ctl.queue.close }
  | .finishJob place => sb.finishJob place
  | .stepRunner id => sb.stepRunner id
  | .signalReady t outcome => sb.signalReady t outcome
  | .signalFinish t outcome => sb.signalFinish t outcome
  | .elapse duration => { sb with clock := sb.clock + duration }
  | .hold place =>
    { sb with surroundings := { sb.surroundings with held := place :: sb.surroundings.held } }
  | .unhold place =>
    { sb with surroundings :=
      { sb.surroundings with held := sb.surroundings.held.filter (· ≠ place) } }
  | .setCluster cluster => { sb with surroundings := { sb.surroundings with cluster } }
  | .makeSession key tunnels plan => sb.makeSession key tunnels plan
  | .add id => { sb with registry := (sb.registry.add id).toOption.getD sb.registry }
  | .delete key =>
    { sb with registry := ((sb.registry.delete key).toOption.map Prod.snd).getD sb.registry }
  | .deleteSession id => { sb with registry := sb.registry.deleteSession id }
  | .close id => sb.closeSession id
  | .launch c id => if sb.isUnlaunched id then sb.launchRunner c id else sb

def run (sb : Switchboard) (moves : List Move) : Switchboard :=
  moves.foldl step sb

/-- A switchboard before anything happened. -/
def initial (surroundings : Surroundings) (controllers : List (String × Nat)) : Switchboard where
  surroundings := surroundings
  controllers := controllers.map fun (address, readySeconds) => { address, readySeconds }

end Switchboard

end PodTunnels
