import PodTunnels.Json.Decode
import PodTunnels.Json.Printer
import PodTunnels.Resource

/-!
# Configuration

The configuration is a record of six fields, each of which may be missing from the file that holds
it. A missing field has its default; the two optional ones, the kubectl program and the context,
may also be `null`. What is written back holds every field in the order of the record, except that
an optional field that is not set is left out, so reading it gives the same record again.

Timeouts are whole seconds of 64 bits. A timeout of zero counts as one second.
-/

namespace PodTunnels

open PodTunnels.Json

structure Config where
  /-- The local address offered in the start dialog. -/
  defaultAddress : String := "localhost"
  /-- The namespace whose pods are listed. -/
  ns : String := ResourcePath.defaultNamespace
  /-- The kubectl program; searched for when it is not set. -/
  kubectlPath : Option String := none
  /-- The context handed to kubectl. -/
  context : Option String := none
  /-- How many seconds a tunnel may take to become ready. -/
  readyTimeout : UInt64 := 15
  /-- How many seconds kubectl may take to answer a request. -/
  requestTimeout : UInt64 := 15
deriving DecidableEq, Repr, Inhabited

namespace Config

/-- A timeout as it counts. -/
def effective (seconds : UInt64) : UInt64 :=
  max seconds 1

/-- The seconds a tunnel has to become ready. -/
def readySeconds (c : Config) : Nat :=
  (effective c.readyTimeout).toNat

/-- The seconds kubectl is told to give a request. -/
def requestSeconds (c : Config) : Nat :=
  (effective c.requestTimeout).toNat

/-- The names of the fields, in the order of the record. -/
def fieldNames : List String :=
  ["defaultAddress", "namespace", "kubectlPath", "context", "readyTimeoutSecs",
    "requestTimeoutSecs"]

def seconds : Reader UInt64 :=
  fun d => (Reader.natBelow UInt64.size d).map UInt64.ofNat

def reader : Reader Config := fun d => do
  let fields ← d.fields? fieldNames
  let default : Config := {}
  let defaultAddress ←
    Reader.orDefault default.defaultAddress Reader.text (fields "defaultAddress")
  let ns ← Reader.orDefault default.ns Reader.text (fields "namespace")
  let kubectlPath ← Reader.optional Reader.text (fields "kubectlPath")
  let context ← Reader.optional Reader.text (fields "context")
  let readyTimeout ← Reader.orDefault default.readyTimeout seconds (fields "readyTimeoutSecs")
  let requestTimeout ←
    Reader.orDefault default.requestTimeout seconds (fields "requestTimeoutSecs")
  return { defaultAddress, ns, kubectlPath, context, readyTimeout, requestTimeout }

def parse? (text : String) : Option Config :=
  (Document.parse? text).bind reader

def ofSeconds (n : UInt64) : Json :=
  .number (.ofNat n.toNat)

def json (c : Config) : Json :=
  .object ([("defaultAddress", .string c.defaultAddress), ("namespace", .string c.ns)] ++
    (c.kubectlPath.map fun path => ("kubectlPath", Json.string path)).toList ++
    (c.context.map fun context => ("context", Json.string context)).toList ++
    [("readyTimeoutSecs", ofSeconds c.readyTimeout),
      ("requestTimeoutSecs", ofSeconds c.requestTimeout)])

def render (c : Config) : String :=
  c.json.pretty

end Config

end PodTunnels
