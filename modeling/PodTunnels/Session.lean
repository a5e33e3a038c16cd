import PodTunnels.Failure

/-!
# Sessions

A session runs the tunnels of one container of one pod. What it connects never changes; its life
does. It starts out inactive, becomes active when its tunnels forward, and ends in two steps: the
tunnels come down, and then it is retired. A session counts as live until the first of these.

A runner drives a session once it has been launched: it waits for readiness, forwards, and ends; a
start that goes wrong is wound down before the end. Two requests reach a session from outside and
take effect once each: the close of its transport, and its retirement.
-/

namespace PodTunnels

/-- The number of a session, in the order of their making. -/
abbrev SessionId := Nat

/-- The number of a transport, in the order of their opening. -/
abbrev TransportId := Nat

abbrev ControllerId := Nat

/-- The number of a start, in the order in which starts were asked for. -/
abbrev StartId := Nat

/-- How something ended. -/
inductive Outcome where
  | success
  | failed (failure : Failure)
deriving DecidableEq, Repr, Inhabited

/-- Where a session stands in its life. -/
inductive SessionState where
  | starting
  | active
  | terminating
  | terminated
deriving DecidableEq, Repr, Inhabited

namespace SessionState

/-- Whether a session in this state keeps others from its key. -/
def isLive : SessionState → Bool
  | starting | active => true
  | terminating | terminated => false

def rank : SessionState → Nat
  | starting => 0
  | active => 1
  | terminating => 2
  | terminated => 3

def render : SessionState → String
  | starting => "Starting"
  | active => "Active"
  | terminating => "Terminating"
  | terminated => "Terminated"

end SessionState

inductive Phase where
  /-- Waiting for the transport to report readiness. -/
  | waiting
  /-- Relaying until the transport ends. -/
  | forwarding
  /-- Winding down a start that failed at a time, for this outcome. -/
  | aborting (outcome : Outcome) (since : Nat)
  /-- Done. -/
  | ended
deriving DecidableEq, Repr, Inhabited

/-- What drives a launched session. Times are in milliseconds. -/
structure Runner where
  controller : ControllerId
  readySeconds : Nat
  launchedAt : Nat
  /-- How many alarms were set before the last one of this runner. -/
  alarm : Nat
  phase : Phase := .waiting
deriving DecidableEq, Repr, Inhabited

namespace Runner

/-- The time after which a start has failed. -/
def readyDeadline (r : Runner) : Nat :=
  r.launchedAt + 1000 * r.readySeconds

/-- How long a failed start may take to wind down. -/
def closeGrace : Nat := 5000

end Runner

/-- What a session connects: fixed when it is made. -/
structure Wiring where
  key : SessionKey
  tunnels : List Tunnel
  tunnels_ne_nil : tunnels ≠ []
  transport : TransportId
  start : Option StartId := none
deriving DecidableEq

namespace Wiring

/-- The first tunnel, which stands for all in messages and listings. -/
def firstTunnel (w : Wiring) : Tunnel :=
  w.tunnels.head w.tunnels_ne_nil

/-- The container and its port mappings, as a line of the question before a deletion. -/
def line (w : Wiring) : String :=
  w.key.container ++ " " ++ Tunnel.summary w.tunnels

end Wiring

/-- What changes in the life of a session. -/
structure Life where
  state : SessionState := .starting
  active : Bool := false
  closeRequested : Bool := false
  retired : Bool := false
  runner : Option Runner := none
deriving DecidableEq, Repr, Inhabited

namespace Life

/-- Whether the session counts towards the uniqueness of its key. -/
def isLive (l : Life) : Bool :=
  l.state.isLive

/-- The tunnels forward. -/
def activate (l : Life) : Life :=
  { l with active := true, state := .active }

/-- The tunnels are marked as no longer in use. -/
def deactivate (l : Life) : Life :=
  { l with active := false }

/-- The close of the transport was asked for. -/
def requestClose (l : Life) : Life :=
  { l with closeRequested := true }

/-- The tunnels came down. -/
def terminate (l : Life) : Life :=
  { l with state := .terminating }

def retire (l : Life) : Life :=
  if l.retired then l else { l with retired := true, active := false, state := .terminated }

def enter (l : Life) (phase : Phase) : Life :=
  { l with runner := l.runner.map fun r => { r with phase } }

def setAlarm (l : Life) (alarm : Nat) : Life :=
  { l with runner := l.runner.map fun r => { r with alarm } }

def launch (l : Life) (runner : Runner) : Life :=
  { l with runner := some runner }

end Life

/-- A session: what it connects, and its life so far. -/
structure Session extends Wiring, Life

namespace Session

def ofWiring (w : Wiring) : Session :=
  { w with }

def live (s : Session) (f : Life → Life) : Session :=
  { s with toLife := f s.toLife }

@[simp] theorem live_toWiring (s : Session) (f : Life → Life) :
    (s.live f).toWiring = s.toWiring := rfl

@[simp] theorem live_toLife (s : Session) (f : Life → Life) :
    (s.live f).toLife = f s.toLife := rfl

def pod (s : Session) : ResourcePath :=
  s.key.pod

def container (s : Session) : String :=
  s.key.container

end Session

/-- A session as listings show it. -/
structure Forward where
  key : SessionKey
  address : String
  ports : String
  state : SessionState
  active : Bool
deriving DecidableEq, Repr

def Session.forward (s : Session) : Forward where
  key := s.key
  address := s.firstTunnel.address
  ports := Tunnel.summary s.tunnels
  state := s.state
  active := s.active

end PodTunnels
