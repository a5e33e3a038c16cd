import PodTunnels.Tunnel

/-!
# How kubectl is called

The arguments of each kind of call, in order. A context goes first if there is one; a request ends
with the time that kubectl is to give it. A port-forward binds all its ports on one address, that of
the first tunnel.
-/

namespace PodTunnels.Kubectl

def contextArguments (context : Option String) : List String :=
  match context with
  | some name => ["--context", name]
  | none => []

/-- A request with its context and the seconds it is given. -/
def requestArguments (context : Option String) (seconds : Nat) (request : List String) :
    List String :=
  contextArguments context ++ request ++ ["--request-timeout=" ++ toString seconds ++ "s"]

def fetchArguments (kind : ResourceKind) (path : ResourcePath) : List String :=
  ["get", kind.kubectlName, path.name, "-n", path.ns, "-o", "json"]

/-- The request for the pods of a namespace, or those that a selector matches. -/
def listArguments (ns : String) (selector : Option String) : List String :=
  ["get", "pods", "-n", ns, "-o", "json"] ++
    match selector with
    | some labels => ["-l", labels]
    | none => []

/-- The call that forwards tunnels to a pod, all of them bound on one address. -/
def forwardArguments (context : Option String) (pod : ResourcePath) (address : String)
    (tunnels : List Tunnel) : List String :=
  contextArguments context ++ ["port-forward", "-n", pod.ns, "pod/" ++ pod.name] ++
    tunnels.map Tunnel.render ++ ["--address=" ++ address]

end PodTunnels.Kubectl
