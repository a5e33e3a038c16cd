import PodTunnels.Failure
import PodTunnels.Port
import PodTunnels.Text.LowerCase

/-!
# What kubectl says when it fails

kubectl explains a failure in prose. A failed request is classified by phrases in its whole error
output, looked for without regard to letter case: an unreachable cluster first, then a missing
resource, then a refused one, and otherwise a plain failure.

A failed forward is reported from the last lines of its error output. A line that tells of a port
already in use names the failure, whichever line it is; without one, the last line that reads like
an error is the report, else the last line, else a fixed text.
-/

namespace PodTunnels.Kubectl

open PodTunnels.Text

/-- Whether a lower-case text holds one of several phrases. -/
def mentionsAny (lower : String) (phrases : List String) : Bool :=
  phrases.any (mentions lower)

/-- The failure that the error output of a request tells of. -/
def classify (stderr : String) : KubectlFailure :=
  let text := trim stderr
  let lower := lowerCase text
  if mentionsAny lower ["connection refused", "no configuration has been provided", "dial tcp",
      "unable to connect to the server"] then .notConnected text
  else if mentionsAny lower ["notfound", "not found"] then .notFound text
  else if mentionsAny lower ["forbidden", "unauthorized"] then .forbidden text
  else .command text

def isErrorLine (line : String) : Bool :=
  mentionsAny (lowerCase line) ["error", "failed", "unable to", "connection refused",
    "lost connection", "an error occurred"]

/-- The port at the start of a part of a line, when it is above the numbers of an IPv4 address. -/
def leadingPort? (part : List Char) : Option UInt16 :=
  match part.takeWhile isAsciiDigit with
  | [] => none
  | digits => (portNumber? digits).filter fun p => 255 < p

/-- The port that a line says is already in use: the first one after a colon. -/
def portConflict? (line : String) : Option UInt16 :=
  if mentions (lowerCase line) "address already in use" then
    (cutAll ':' line.toList).tail.findSome? leadingPort?
  else none

/-- The number of lines of error output that are kept for a report. -/
def tailLength : Nat := 20

/-- The kept lines with one more; the oldest goes when there is no room. -/
def keep (kept : List String) (line : String) : List String :=
  (if kept.length = tailLength then kept.drop 1 else kept) ++ [line]

def tail (lines : List String) : List String :=
  lines.foldl keep []

/-- The local address of the first tunnel with a local port. -/
def addressOf (port : UInt16) (tunnels : List Tunnel) : String :=
  match tunnels.find? fun t => t.localPort == port with
  | some t => t.address
  | none => "127.0.0.1"

/-- The failure that the kept lines of error output tell of. -/
def forwardFailure (lines : List String) (tunnels : List Tunnel) : Failure :=
  match lines.findSome? fun line => (portConflict? line).map fun port => (port, line) with
  | some (port, line) => .portUnavailable (addressOf port tunnels) port line
  | none =>
    let line := (lines.reverse.find? isErrorLine).or lines.getLast?
    .transport (line.getD "kubectl port-forward exited")

end PodTunnels.Kubectl
