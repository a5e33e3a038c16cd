import PodTunnels.Resource

/-!
# Tunnels and session keys

A tunnel joins a port on a local address to a port of a container. A session runs the tunnels of
one container of one pod, and is known by that pair; its key orders by pod first and container
second. Port numbers are the numbers of 16 bits, zero included: which of them a text may name is
decided where the text is read.
-/

namespace PodTunnels

/-- The protocol that a container declares for a port. -/
inductive Protocol where
  | tcp
  | udp
  | sctp
  | other
deriving DecidableEq, Repr, Inhabited

namespace Protocol

def render : Protocol → String
  | tcp => "TCP"
  | udp => "UDP"
  | sctp => "SCTP"
  | other => "OTHER"

/-- The protocol of a name; an unknown name is some other protocol. -/
def ofName (name : String) : Protocol :=
  if name = "TCP" then tcp
  else if name = "UDP" then udp
  else if name = "SCTP" then sctp
  else other

end Protocol

def renderPort (p : UInt16) : String :=
  toString p.toNat

/-- A local port joined to a port of a container. -/
structure Tunnel where
  address : String
  localPort : UInt16
  containerPort : UInt16
  protocol : Protocol := .tcp
deriving DecidableEq, Repr, Inhabited

namespace Tunnel

/-- The two ports as `local:remote`. -/
def render (t : Tunnel) : String :=
  renderPort t.localPort ++ ":" ++ renderPort t.containerPort

/-- The local end of a tunnel: what a listener binds. -/
def localEnd (t : Tunnel) : String × UInt16 :=
  (t.address, t.localPort)

/-- The ports of several tunnels, separated by commas. -/
def summary (ts : List Tunnel) : String :=
  ",".intercalate (ts.map render)

end Tunnel

/-- What a session is registered under: a pod and one of its containers. -/
structure SessionKey where
  pod : ResourcePath
  container : String
deriving DecidableEq, Repr, Inhabited

namespace SessionKey

/-- A key as `namespace/name|container`. -/
def render (k : SessionKey) : String :=
  k.pod.render ++ "|" ++ k.container

instance : Ord SessionKey := ⟨compareLex (compareOn pod) (compareOn container)⟩

instance : Std.TransOrd SessionKey :=
  inferInstanceAs (Std.TransCmp (compareLex (compareOn pod) (compareOn container)))

instance : Std.LawfulEqOrd SessionKey where
  eq_of_compare {a b} h := by
    obtain ⟨hp, hc⟩ := Ordering.then_eq_eq.1 (show (compare a.pod b.pod).then _ = .eq from h)
    cases a
    cases b
    simp_all [compareOn]

end SessionKey

end PodTunnels
