import PodTunnels.Failure

/-!
# Availability of local ports

Before a tunnel is opened its local end is bound and released again. The check fails at the first
end, in the order of the tunnels, that somebody holds; it holds nothing itself. What it finds is
true at that moment only.
-/

namespace PodTunnels

/-- A local address and port that a listener can hold. -/
abbrev LocalEnd := String × UInt16

/-- Why a held port cannot be bound. -/
def addressInUse : String := "Address already in use (os error 98)"

def Tunnel.check (t : Tunnel) (held : List LocalEnd) : Except Failure Unit :=
  if t.localEnd ∈ held then .error (.portUnavailable t.address t.localPort addressInUse)
  else .ok ()

def checkTunnels (held : List LocalEnd) : List Tunnel → Except Failure Unit
  | [] => .ok ()
  | t :: ts =>
    match t.check held with
    | .ok () => checkTunnels held ts
    | .error e => .error e

end PodTunnels
