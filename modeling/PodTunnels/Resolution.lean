import PodTunnels.Cluster
import PodTunnels.Manifest

/-!
# From a target to a pod and its ports

A pod target is its own answer. A workload or a service is fetched for its label selector, and the
pods that match in the target's namespace are listed; the first running one is the answer, or the
first one when none runs. Every listed pod must be readable, wherever it stands. An object without
a selector, or with an empty one, reaches no pod. A kind that leads to no pods is refused before
anything is asked.
-/

namespace PodTunnels

/-- How a kind of resource reaches its pods. -/
inductive Route where
  | pod
  | workload (kind : ResourceKind)
  | service
deriving DecidableEq, Repr

def readObject {α : Type} (what : String) (reader : Json.Reader α) (object : Json) :
    Inquiry α :=
  match Manifest.decode what reader object.document with
  | .ok a => pure a
  | .error e => throw (.kubectl e)

namespace Route

def ofKind : ResourceKind → Except Failure Route
  | .pod => .ok pod
  | .service => .ok service
  | .other name => .error (.unsupportedKind name)
  | kind => .ok (workload kind)

/-- The pod that stands for several: the first running one, else the first. -/
def pick (pods : List Pod) : Option Pod :=
  (pods.find? Pod.isRunning).or pods.head?

/-- The pod that stands for those that a path was found to select. -/
def choosePod (path : ResourcePath) (objects : List Json) : Inquiry ResourcePath := do
  let pods ← objects.mapM (readObject "pod" Manifest.pod)
  match pick pods with
  | some p => return p.path path.ns
  | none => throw (.kubectl (.notFound ("no pods match " ++ path.render)))

/-- One of the pods that labels select in the namespace of a path. -/
def selectPod (path : ResourcePath) (labels : Labels) : Inquiry ResourcePath := do
  if labels.isEmpty then
    throw (.kubectl (.undecodable (.noSelector path)))
  let objects ← Inquiry.listPods path.ns (some labels.selector)
  choosePod path objects

/-- One of the pods that the labels of an object select, given a reader of these. -/
def selectedPod (kind : ResourceKind) (path : ResourcePath) (what : String)
    (reader : Json.Reader (Option Labels)) : Inquiry ResourcePath := do
  let object ← Inquiry.fetch kind path
  let labels ← readObject what reader object
  selectPod path (labels.getD {})

def resolve (route : Route) (path : ResourcePath) : Inquiry ResourcePath :=
  match route with
  | pod => pure path
  | workload kind => selectedPod kind path "workload" Manifest.workload
  | service => selectedPod .service path "service" Manifest.service

end Route

def Target.resolve (t : Target) : Inquiry ResourcePath := do
  let route ← ExceptT.mk (.done (Route.ofKind t.kind))
  route.resolve t.path

def fetchPodPorts (pod : ResourcePath) : Inquiry PodPorts := do
  let object ← Inquiry.fetch .pod pod
  let pod ← readObject "pod" Manifest.pod object
  return pod.ports

end PodTunnels
