import PodTunnels.Kubectl.Announcement
import PodTunnels.Kubectl.Client
import PodTunnels.Session
import PodTunnels.Text.Lines

/-!
# A running port-forward

A forward is a run of kubectl that stays. It is ready when it has announced every local port it was
asked for; until then its output is read line by line, and what follows stays unread. After that
its output is read to the end and its exit decides. Output that ends too early, or an exit that is
no success, is explained by the last lines of its error output, which is read only once the forward
was waited for to become ready.

A line that is no text ends the reading with a failure of its own; the next reading goes on behind
it. What would have to wait for a run that stays for ever has no outcome.
-/

namespace PodTunnels.Kubectl

open PodTunnels.Text

/-- The failure to read a line that is no text. -/
def unreadableLine (fault : Utf8.Fault) : Failure :=
  .io fault.message

/-- A run of a port-forward, as far as its output was read. -/
structure PortForward where
  tunnels : List Tunnel
  run : ProgramRun
  /-- The lines of output that were not read yet. -/
  unread : List (List UInt8)
  /-- Whether the error output is being read. -/
  explains : Bool := false
  /-- Whether the run was terminated before its own end. -/
  terminated : Bool := false
  /-- Whether its exit was seen. -/
  reaped : Bool := false
deriving Repr

namespace PortForward

/-- A run that has just started. -/
def ofRun (tunnels : List Tunnel) (run : ProgramRun) : PortForward where
  tunnels := tunnels
  run := run
  unread := byteLines run.output

/-- The lines of an error output up to the first that is no text. -/
def errorLines (bytes : List UInt8) : List String :=
  ((byteLines bytes).map Utf8.decode?).takeWhile Option.isSome |>.filterMap id

def failure (f : PortForward) : Failure :=
  forwardFailure (if f.explains then tail (errorLines f.run.errorOutput) else []) f.tunnels

/-- Whether the run comes to an end without anybody's doing or has been ended. -/
def ends (f : PortForward) : Bool :=
  f.terminated || !f.run.hangs

def succeeded (f : PortForward) : Bool :=
  !f.terminated && f.run.exitCode == 0

/-- What reading lines until every port is announced comes to, and the lines left. There is no
outcome when the lines end first. -/
def awaitPorts : List UInt16 → List (List UInt8) → Option Outcome × List (List UInt8)
  | [], lines => (some .success, lines)
  | _ :: _, [] => (none, [])
  | p :: ps, line :: lines =>
    match Utf8.decode line with
    | .ok text => awaitPorts (stillPending (p :: ps) text) lines
    | .error fault => (some (.failed (unreadableLine fault)), lines)

def ready (f : PortForward) : Option Outcome × PortForward :=
  let f := { f with explains := true }
  match awaitPorts (f.tunnels.map Tunnel.localPort) f.unread with
  | (some outcome, unread) => (some outcome, { f with unread })
  | (none, unread) =>
    if f.ends then (some (.failed f.failure), { f with unread, reaped := true })
    else (none, { f with unread })

/-- What reading lines to the end comes to when one of them is no text, and the lines behind it. -/
def firstFault : List (List UInt8) → Option (Utf8.Fault × List (List UInt8))
  | [] => none
  | line :: lines =>
    match Utf8.decode line with
    | .ok _ => firstFault lines
    | .error fault => some (fault, lines)

def wait (f : PortForward) : Option Outcome × PortForward :=
  match firstFault f.unread with
  | some (fault, unread) => (some (.failed (unreadableLine fault)), { f with unread })
  | none =>
    let f := { f with unread := [] }
    if f.ends then
      (some (if f.succeeded then .success else .failed f.failure), { f with reaped := true })
    else (none, f)

/-- Ask the run to end, unless its exit was already seen. A run that exits by itself without delay
is not hit. -/
def close (f : PortForward) : PortForward :=
  if f.reaped ∨ (!f.run.hangs ∧ f.run.delay = 0) then f else { f with terminated := true }

/-- The run while it has not come to its end: as far as its output goes, one that stays. -/
def alive (f : PortForward) : PortForward :=
  { f with run := { f.run with hangs := true } }

/-- What the run reports about its readiness, and then about its end. -/
def reports (f : PortForward) : Option Outcome × Option Outcome :=
  let (readiness, f) := f.ready
  (readiness, f.wait.1)

end PortForward

namespace Client

def openForward (c : Client) (pod : ResourcePath) (tunnels : List Tunnel) (h : Host) :
    Except Failure PortForward × Host :=
  match c.program, tunnels with
  | none, _ => (.error (.kubectl .programMissing), h)
  | some _, [] => (.error (.invalidPorts .noMapping), h)
  | some program, t :: ts =>
    match h.start program (forwardArguments c.context pod t.address (t :: ts)) with
    | (.ok run, h) => (.ok (.ofRun (t :: ts) run), h)
    | (.error reason, h) =>
      (.error (.kubectl (.process ("Failed to start kubectl: " ++ reason))), h)

end Client

end PodTunnels.Kubectl
