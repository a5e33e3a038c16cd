import PodTunnels.OrderedMap
import PodTunnels.Tunnel

/-!
# Pods and the ports they declare

A pod declares ports container by container. The declarations are kept in the order of the
container names, and within a container as declared; of two containers with one name the last
counts. A port can be forwarded when it is declared for TCP; the candidates are those ports, each
with the name it was given unless that is empty.
-/

namespace PodTunnels

structure ContainerPort where
  name : Option String
  port : UInt16
  protocol : Protocol
deriving DecidableEq, Repr, Inhabited

/-- The declared ports of a pod by container name. -/
abbrev PodPorts := OrderedMap String (List ContainerPort)

/-- A port that a user may choose to forward. -/
structure Candidate where
  container : String
  name : Option String
  port : UInt16
deriving DecidableEq, Repr, Inhabited

namespace Candidate

def of (container : String) (p : ContainerPort) : Candidate :=
  ⟨container, p.name.filter fun name => !name.isEmpty, p.port⟩

/-- A candidate as `container/name:port`, or `container:port` when it has no name. -/
def render (c : Candidate) : String :=
  match c.name with
  | some name => c.container ++ "/" ++ name ++ ":" ++ renderPort c.port
  | none => c.container ++ ":" ++ renderPort c.port

end Candidate

def tcpCandidates (ports : PodPorts) : List Candidate :=
  ports.entries.flatMap fun e =>
    (e.2.filter fun p => p.protocol = .tcp).map (Candidate.of e.1)

/-- A container as a pod object lists it. -/
structure Container where
  name : String
  ports : List ContainerPort
deriving DecidableEq, Repr, Inhabited

structure Pod where
  name : String
  ns : Option String
  containers : List Container
  reportedPhase : Option String
deriving DecidableEq, Repr, Inhabited

namespace Pod

/-- The path of a pod, in the fallback namespace when the object names none. -/
def path (p : Pod) (fallback : String) : ResourcePath :=
  ⟨p.ns.getD fallback, p.name⟩

def phase (p : Pod) : String :=
  p.reportedPhase.getD "Unknown"

def isRunning (p : Pod) : Bool :=
  p.phase == "Running"

def ports (p : Pod) : PodPorts :=
  OrderedMap.ofList (p.containers.map fun c => (c.name, c.ports))

end Pod

/-- A pod as listings show it. -/
structure PodSummary where
  path : ResourcePath
  phase : String
  ports : PodPorts

def Pod.summary (p : Pod) (fallback : String) : PodSummary :=
  ⟨p.path fallback, p.phase, p.ports⟩

end PodTunnels
