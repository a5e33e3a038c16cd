import PodTunnels.Availability
import PodTunnels.Registry
import PodTunnels.Resolution
import PodTunnels.Switchboard.Controller
import PodTunnels.Transport

/-!
# The switchboard

The switchboard is everything that sessions depend on: the registry, the transports, the
controllers with their interfaces' queues, the jobs under way in the background, the clock, and the
surroundings, which are the cluster, the ports that others hold and the plans of transports to come.
What happened is kept with it: the notices, the requests to the cluster and the closes of
transports, each in order.

This module holds the state and its elementary changes. Each of them touches one component, so that
what a longer operation leaves alone can be read off its definition.
-/

namespace PodTunnels

/-- Work under way in the background on behalf of a controller. -/
inductive Job where
  | resolve (controller : ControllerId) (generation : Nat) (route : Route) (path : ResourcePath)
  | readPorts (controller : ControllerId) (generation : Nat) (pod : ResourcePath)
  | checkPorts (controller : ControllerId) (start : StartId) (key : SessionKey)
      (selection : Selection)

/-- What the sessions find around them. -/
structure Surroundings where
  cluster : Cluster
  plans : List Plan := []
  /-- Whether a transport without tunnels is refused before it is opened. -/
  refusesEmpty : Bool := false
  held : List LocalEnd := []

/-- The state of everything that sessions depend on. -/
structure Switchboard where
  surroundings : Surroundings
  clock : Nat := 0
  /-- How many alarms were set so far. -/
  alarms : Nat := 0
  registry : Registry := {}
  transports : List Transport := []
  attempts : Nat := 0
  closings : List TransportId := []
  controllers : List Controller := []
  jobs : List Job := []
  startCount : Nat := 0
  requests : List Request := []
  notices : List Notice := []

namespace Switchboard

def notify (sb : Switchboard) (c : ControllerId) (about : Subject) (effect : Effect) :
    Switchboard :=
  { sb with notices := sb.notices ++ [⟨c, about, effect⟩] }

def control (sb : Switchboard) (c : ControllerId) (f : Controller → Controller) : Switchboard :=
  { sb with controllers := sb.controllers.modify c f }

/-- Whether the interface of a controller still takes tasks. -/
def hears (sb : Switchboard) (c : ControllerId) : Bool :=
  sb.controllers[c]?.any fun ctl => ctl.queue.isOpen

/-- Hand a task to the interface of a controller, if it is still there. -/
def post (sb : Switchboard) (c : ControllerId) (task : Task) : Switchboard :=
  sb.control c fun ctl => ctl.post task

def spawn (sb : Switchboard) (job : Job) : Switchboard :=
  { sb with jobs := sb.jobs ++ [job] }

/-- Let the life of a session go on. -/
def live (sb : Switchboard) (id : SessionId) (f : Life → Life) : Switchboard :=
  { sb with registry := sb.registry.live id f }

def session? (sb : Switchboard) (id : SessionId) : Option Session :=
  sb.registry.session? id

def wire (sb : Switchboard) (t : TransportId) (f : Transport → Transport) : Switchboard :=
  { sb with transports := sb.transports.modify t f }

def isClosed (sb : Switchboard) (t : TransportId) : Bool :=
  sb.closings.contains t

def readiness (sb : Switchboard) (t : TransportId) : Option Outcome :=
  sb.transports[t]?.bind Transport.readiness

def ending (sb : Switchboard) (t : TransportId) : Option Outcome :=
  sb.transports[t]?.bind fun transport => transport.ending (sb.isClosed t)

/-- Ask for the close of a session's transport. Only the first request reaches the transport. -/
def closeSession (sb : Switchboard) (id : SessionId) : Switchboard :=
  match sb.session? id with
  | some s =>
    if s.closeRequested then sb
    else { sb.live id Life.requestClose with closings := sb.closings ++ [s.transport] }
  | none => sb

def connect (sb : Switchboard) (t : Transport) : TransportId × Switchboard :=
  (sb.transports.length, { sb with transports := sb.transports ++ [t] })

/-- Put a new session on the roster. -/
def enroll (sb : Switchboard) (w : Wiring) : SessionId × Switchboard :=
  (sb.registry.roster.length, { sb with registry := (sb.registry.enroll w).2 })

/-- Launch a runner for a session. Its first alarm is for the end of the time for readiness. -/
def launchRunner (sb : Switchboard) (c : ControllerId) (id : SessionId) : Switchboard :=
  match sb.controllers[c]? with
  | some ctl =>
    { sb.live id fun l =>
        l.launch
          { controller := c, readySeconds := ctl.readySeconds, launchedAt := sb.clock,
            alarm := sb.alarms } with
      alarms := sb.alarms + 1 }
  | none => sb

def setAlarm (sb : Switchboard) (id : SessionId) : Switchboard :=
  { sb.live id fun l => l.setAlarm sb.alarms with alarms := sb.alarms + 1 }

end Switchboard

end PodTunnels
