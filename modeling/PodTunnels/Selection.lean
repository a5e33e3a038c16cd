import PodTunnels.Pod
import PodTunnels.Port

/-!
# Selections of ports

A selection is what a start needs: a container and the tunnels to it. It is made in the start
dialog, from chosen candidates and two texts, or on the command line, from port mappings.

In the dialog the faults are looked for in a fixed order: nothing chosen, several containers, no
address, a local port that is no port, a wrong number of local ports. On the command line each
mapping in turn must name a port that some container declares for TCP, and the first mapping fixes
the container for the rest unless it was given.
-/

namespace PodTunnels

open PodTunnels.Text

/-- The tunnels to open to one container. -/
structure Selection where
  container : String
  tunnels : List Tunnel
deriving DecidableEq, Repr, Inhabited

namespace Selection

/-- The selection of chosen candidates. Without local ports each candidate keeps its own. -/
def ofCandidates (chosen : List Candidate) (localPorts address : String) :
    Except Failure Selection :=
  match chosen with
  | [] => .error (.invalidPorts .noneSelected)
  | first :: _ => do
    if chosen.any fun c => c.container ≠ first.container then
      throw (.invalidPorts .severalContainers)
    let address := trim address
    if address.isEmpty then
      throw (.invalidPorts .missingAddress)
    let locals ←
      if (trim localPorts).isEmpty then pure (chosen.map Candidate.port)
      else parseLocalPorts localPorts
    if locals.length ≠ chosen.length then
      throw (.invalidPorts (.miscounted chosen.length locals.length))
    return ⟨first.container,
      (chosen.zip locals).map fun (c, near) =>
        { address, localPort := near, containerPort := c.port }⟩

end Selection

/-- Why mappings do not make a selection. -/
inductive MappingFault where
  | unreadable (failure : Failure)
  | undeclared (port : UInt16)
  | noMappings
deriving DecidableEq, Repr

def MappingFault.message : MappingFault → String
  | unreadable failure => failure.message
  | undeclared port => "no container declares TCP port " ++ renderPort port
  | noMappings => "no port mappings given"

namespace Selection

/-- The tunnels of mappings, given the container they belong to as far as it is known, and that
container as known in the end. -/
def ofMappingsFrom (candidates : List Candidate) (address : String) :
    Option String → List String → Except MappingFault (Option String × List Tunnel)
  | owner, [] => .ok (owner, [])
  | owner, spec :: specs => do
    let (near, far) ←
      match parsePortMapping spec with
      | .ok ports => pure ports
      | .error e => throw (.unreadable e)
    let fits (c : Candidate) : Bool :=
      c.port == far && owner.all fun name => name == c.container
    match candidates.find? fits with
    | none => throw (.undeclared far)
    | some c =>
      let (owner, tunnels) ←
        ofMappingsFrom candidates address (some (owner.getD c.container)) specs
      return (owner, { address, localPort := near, containerPort := far } :: tunnels)

/-- The selection of mappings onto the declared ports of a pod. -/
def ofMappings (ports : PodPorts) (mappings : List String) (container : Option String)
    (address : String) : Except MappingFault Selection := do
  let candidates := (tcpCandidates ports).filter fun c =>
    container.all fun name => c.container == name
  let (owner, tunnels) ← ofMappingsFrom candidates address container mappings
  match owner with
  | some container => return ⟨container, tunnels⟩
  | none => throw .noMappings

end Selection

end PodTunnels
