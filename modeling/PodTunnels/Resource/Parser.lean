import PodTunnels.Failure
import PodTunnels.Text.LowerCase
import PodTunnels.Text.Split

/-!
# Resources from text

A path is a name, or a namespace and a name around one slash. A target is a pod name, or a kind
and a name around one slash; its namespace comes from the caller. Neither admits an empty part or
a second slash. Kinds are read without regard to letter case, in any of their usual short, singular
and plural forms, and what is none of these is a kind of its own.

When both parts of a target are at fault, the kind is blamed.
-/

namespace PodTunnels

open PodTunnels.Text

/-- A path from `name` or `namespace/name`. -/
def ResourcePath.parse (s : String) : Except Failure ResourcePath :=
  let (ns, name) := (splitFirst '/' s).getD (defaultNamespace, s)
  if ns.isEmpty || name.isEmpty || name.toList.contains '/' then .error (.invalidTarget s)
  else .ok ⟨ns, name⟩

/-- The kind that a lower-case name stands for. -/
def ResourceKind.ofLowerName (name : String) : ResourceKind :=
  if ["po", "pod", "pods"].contains name then pod
  else if ["deploy", "deployment", "deployments"].contains name then deployment
  else if ["sts", "statefulset", "statefulsets"].contains name then statefulSet
  else if ["ds", "daemonset", "daemonsets"].contains name then daemonSet
  else if ["rs", "replicaset", "replicasets"].contains name then replicaSet
  else if ["job", "jobs"].contains name then job
  else if ["svc", "service", "services"].contains name then service
  else other name

def ResourceKind.parse (s : String) : Except Failure ResourceKind :=
  let name := lowerCase s
  if name.isEmpty then .error (.invalidTarget s) else .ok (ofLowerName name)

/-- A target in a namespace from `name` or `kind/name`. -/
def Target.parse (s : String) (ns : String) : Except Failure Target := do
  let (kind, name) ←
    match splitFirst '/' s with
    | some (kind, name) => do
      let kind ← ResourceKind.parse kind
      pure (kind, name)
    | none => pure (.pod, s)
  if name.isEmpty || name.toList.contains '/' then .error (.invalidTarget s)
  else .ok ⟨kind, ⟨ns, name⟩⟩

end PodTunnels
