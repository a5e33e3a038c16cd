/-!
# Cluster resources

A resource is named by its kind and by a path of a namespace and a name. Paths are ordered by
namespace first and name second, each by code point; listings of pods and sessions use this order.

Kinds that lead to pods have constructors of their own. Every other kind is kept by the lower-case
name it was given, so that a message can repeat it.
-/

namespace PodTunnels

structure ResourcePath where
  ns : String
  name : String
deriving DecidableEq, Repr, Inhabited

namespace ResourcePath

/-- The namespace of a path that names none. -/
def defaultNamespace : String := "default"

/-- A path as `namespace/name`. -/
def render (p : ResourcePath) : String :=
  p.ns ++ "/" ++ p.name

instance : ToString ResourcePath := ⟨render⟩

instance : Ord ResourcePath := ⟨compareLex (compareOn ns) (compareOn name)⟩

instance : Std.TransOrd ResourcePath :=
  inferInstanceAs (Std.TransCmp (compareLex (compareOn ns) (compareOn name)))

instance : Std.LawfulEqOrd ResourcePath where
  eq_of_compare {a b} h := by
    obtain ⟨hn, hm⟩ := Ordering.then_eq_eq.1 (show (compare a.ns b.ns).then _ = .eq from h)
    cases a
    cases b
    simp_all [compareOn]

end ResourcePath

inductive ResourceKind where
  | pod
  | deployment
  | statefulSet
  | daemonSet
  | replicaSet
  | job
  | service
  | other (name : String)
deriving DecidableEq, Repr, Inhabited

namespace ResourceKind

/-- The plural name by which `kubectl get` knows a kind. -/
def kubectlName : ResourceKind → String
  | pod => "pods"
  | deployment => "deployments"
  | statefulSet => "statefulsets"
  | daemonSet => "daemonsets"
  | replicaSet => "replicasets"
  | job => "jobs"
  | service => "services"
  | other name => name

instance : ToString ResourceKind := ⟨kubectlName⟩

end ResourceKind

/-- A resource chosen as the subject of a forward. -/
structure Target where
  kind : ResourceKind
  path : ResourcePath
deriving DecidableEq, Repr, Inhabited

namespace Target

def ofPod (path : ResourcePath) : Target :=
  ⟨.pod, path⟩

/-- A target as its kind and its path. -/
def render (t : Target) : String :=
  t.kind.kubectlName ++ " " ++ t.path.render

end Target

end PodTunnels
