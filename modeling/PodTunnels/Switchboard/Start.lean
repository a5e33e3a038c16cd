import PodTunnels.Switchboard.Basic

/-!
# Starts

A start goes through three steps. It claims its key, unless the key is live or claimed already; a
job checks its local ports; and back on the interface it opens a transport and launches the runner
of a new session. Whatever fails is told once, and the claim is released.

Between the steps others may register a session under the key. So the key is looked up again before
a transport is opened, and registering can still fail after that; a session that came too late
closes the transport it had opened and is never launched.
-/

namespace PodTunnels

namespace Switchboard

def nextPlan (sb : Switchboard) : Plan :=
  sb.surroundings.plans[sb.attempts]?.getD {}

/-- The tunnel of a session that somebody else makes while a transport is being opened. -/
def rivalTunnel : Tunnel :=
  { address := "rival", localPort := 1, containerPort := 1 }

/-- Somebody else registers a session with a key. Nobody runs it. -/
def registerRival (sb : Switchboard) (key : SessionKey) : Switchboard :=
  let transport : Transport :=
    { key, tunnels := [rivalTunnel], occasion := .rival, plan := {}, hearsReady := false,
      hearsFinish := false }
  let (t, sb) := sb.connect transport
  let (id, sb) := sb.enroll
    { key, tunnels := [rivalTunnel], tunnels_ne_nil := List.cons_ne_nil _ _, transport := t }
  match sb.registry.add id with
  | .ok registry => { sb with registry }
  | .error _ => sb

def openTransport (sb : Switchboard) (key : SessionKey) (tunnels : List Tunnel) :
    Except Failure TransportId × Switchboard :=
  let plan := sb.nextPlan
  let sb := { sb with attempts := sb.attempts + 1 }
  if sb.surroundings.refusesEmpty ∧ tunnels = [] then (.error (.invalidPorts .noMapping), sb)
  else
    match plan.openFailure with
    | some e => (.error e, sb)
    | none =>
      let sb := if plan.rival then sb.registerRival key else sb
      let (t, sb) := sb.connect { key, tunnels, occasion := .start, plan }
      (.ok t, sb)

/-- Register a session that has its transport, and launch it for a controller. -/
def register (sb : Switchboard) (c : ControllerId) (w : Wiring) : Except Failure Unit × Switchboard :=
  let (id, sb) := sb.enroll w
  match sb.registry.add id with
  | .ok registry => (.ok (), { sb with registry }.launchRunner c id)
  | .error e => (.error e, (sb.closeSession id).wire w.transport Transport.drop)

/-- Open a session for a start whose ports were free. -/
def openSession (sb : Switchboard) (c : ControllerId) (start : StartId) (key : SessionKey)
    (tunnels : List Tunnel) : Except Failure Unit × Switchboard :=
  match sb.registry.lookup key with
  | some _ => (.error (.duplicateSession key), sb)
  | none =>
    match sb.openTransport key tunnels with
    | (.error e, sb) => (.error e, sb)
    | (.ok t, sb) =>
      if h : tunnels = [] then
        (.error (.invalidPorts (.noneToForward key)), sb.wire t Transport.drop)
      else
        sb.register c
          { key, tunnels, tunnels_ne_nil := h, transport := t, start := some start }

/-- Say of a start that it failed. -/
def reportStart (sb : Switchboard) (c : ControllerId) (start : StartId) :
    Except Failure Unit → Switchboard
  | .ok () => sb
  | .error e => sb.notify c (.start start) (.error e)

/-- The ports of a start were checked: launch it, or give it up. -/
def checked (sb : Switchboard) (c : ControllerId) (start : StartId) (key : SessionKey)
    (selection : Selection) (result : Except Failure Unit) : Switchboard :=
  let (result, sb) :=
    match result with
    | .ok () => sb.openSession c start key selection.tunnels
    | .error e => (.error e, sb)
  (sb.control c fun ctl => ctl.release key).reportStart c start result

/-- Whether a start would find its key taken, by a claim of its controller or a live session. -/
def isTaken (sb : Switchboard) (ctl : Controller) (key : SessionKey) : Bool :=
  (ctl.starts.get? key).isSome || (sb.registry.lookup key).isSome

/-- Start a forward for a selection of ports of a pod. -/
def start (sb : Switchboard) (c : ControllerId) (pod : ResourcePath) (selection : Selection) :
    Switchboard :=
  match sb.controllers[c]? with
  | none => sb
  | some ctl =>
    let key : SessionKey := ⟨pod, selection.container⟩
    let id := sb.startCount
    let counted := { sb with startCount := sb.startCount + 1 }
    if sb.isTaken ctl key then counted.reportStart c id (.error (.duplicateSession key))
    else
      (counted.control c fun ctl => ctl.claim key id).spawn (.checkPorts c id key selection)

end Switchboard

end PodTunnels
