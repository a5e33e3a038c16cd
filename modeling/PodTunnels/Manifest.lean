import PodTunnels.Failure
import PodTunnels.Json.Decode
import PodTunnels.Pod

/-!
# Objects as the cluster reports them

Readers for the parts of cluster objects that forwarding needs: a pod with its containers and
their ports, the label selectors of workloads and services, and the items of a listing. Each
follows the rules for records of `Json.Reader`; every other member of an object is skipped.

A workload selects pods through `spec.selector.matchLabels`, a service through `spec.selector`
itself. A selector is written for kubectl as `key=value` pairs in key order.
-/

namespace PodTunnels

open PodTunnels.Json

abbrev Labels := OrderedMap String String

def Labels.selector (labels : Labels) : String :=
  ",".intercalate (labels.entries.map fun e => e.1 ++ "=" ++ e.2)

namespace Manifest

/-- A port number, zero included. -/
def port : Reader UInt16 :=
  fun d => (Reader.natBelow UInt16.size d).map UInt16.ofNat

/-- A protocol: its name, or an object with its name and null. -/
def protocol : Reader Protocol
  | .string (some name) => some (.ofName name)
  | .object [(some name, .null)] => some (.ofName name)
  | _ => none

def containerPort : Reader ContainerPort := fun d => do
  let fields ← d.fields? ["name", "containerPort", "protocol"]
  let name ← Reader.optional Reader.text (fields "name")
  let number ← Reader.required port (fields "containerPort")
  let protocol ← Reader.orDefault .tcp protocol (fields "protocol")
  return ⟨name, number, protocol⟩

def container : Reader Container := fun d => do
  let fields ← d.fields? ["name", "ports"]
  let name ← Reader.required Reader.text (fields "name")
  let ports ← Reader.orDefault [] (Reader.list containerPort) (fields "ports")
  return ⟨name, ports⟩

/-- The name and the namespace of an object. -/
def metadata : Reader (String × Option String) := fun d => do
  let fields ← d.fields? ["name", "namespace"]
  let name ← Reader.required Reader.text (fields "name")
  let ns ← Reader.optional Reader.text (fields "namespace")
  return (name, ns)

/-- The containers of a pod. -/
def podSpec : Reader (List Container) := fun d => do
  let fields ← d.fields? ["containers"]
  Reader.orDefault [] (Reader.list container) (fields "containers")

/-- The phase of a pod. -/
def podStatus : Reader (Option String) := fun d => do
  let fields ← d.fields? ["phase"]
  Reader.optional Reader.text (fields "phase")

def pod : Reader Pod := fun d => do
  let fields ← d.fields? ["metadata", "spec", "status"]
  let (name, ns) ← Reader.required metadata (fields "metadata")
  let containers ← Reader.required podSpec (fields "spec")
  let status ← Reader.optional podStatus (fields "status")
  return ⟨name, ns, containers, status.join⟩

/-- The selector of a workload. -/
def matchLabels : Reader Labels := fun d => do
  let fields ← d.fields? ["matchLabels"]
  Reader.orDefault {} Reader.textMap (fields "matchLabels")

/-- The selector inside the `spec` of an object. -/
def specSelector (selector : Reader Labels) : Reader (Option Labels) := fun d => do
  let fields ← d.fields? ["spec"]
  let spec ← Reader.required (fun d => d.fields? ["selector"]) (fields "spec")
  Reader.optional selector (spec "selector")

/-- The labels by which a workload selects its pods. -/
def workload : Reader (Option Labels) :=
  specSelector matchLabels

/-- The labels by which a service selects its pods. -/
def service : Reader (Option Labels) :=
  specSelector Reader.textMap

/-- The items of a listing, not looked into. They stand two levels below the top of their text. -/
def items : Reader (List Json) := fun d => do
  let fields ← d.fields? ["items"]
  Reader.required (Reader.list (Reader.json (maxDepth - 2))) (fields "items")

def path : Reader ResourcePath := fun d => do
  let fields ← d.fields? ["namespace", "name"]
  let ns ← Reader.required Reader.text (fields "namespace")
  let name ← Reader.required Reader.text (fields "name")
  return ⟨ns, name⟩

def tunnel : Reader Tunnel := fun d => do
  let fields ← d.fields? ["address", "localPort", "containerPort", "protocol"]
  let address ← Reader.required Reader.text (fields "address")
  let localPort ← Reader.required port (fields "localPort")
  let containerPort ← Reader.required port (fields "containerPort")
  let protocol ← Reader.required protocol (fields "protocol")
  return { address, localPort, containerPort, protocol }

/-- Read a document that a kubectl run gave, naming what was looked for when it is refused. -/
def decode {α : Type} (what : String) (reader : Reader α) (d : Document) :
    Except KubectlFailure α :=
  match reader d with
  | some a => .ok a
  | none => .error (.undecodable (.malformed what))

def decodeText {α : Type} (what : String) (reader : Reader α) (text : String) :
    Except KubectlFailure α :=
  match Document.parse? text with
  | some d => decode what reader d
  | none => .error (.undecodable (.malformed what))

end Manifest

end PodTunnels
