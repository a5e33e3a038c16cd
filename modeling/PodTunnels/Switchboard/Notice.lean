import PodTunnels.Session

/-!
# Notices

All that a user gets to see of the work on sessions is a sequence of notices. Each names what it is
about: a dialog flow by its generation, a confirmed start, or a session. So it can be said of one
start or one session which notices it led to.
-/

namespace PodTunnels

/-- Good news. -/
inductive Info where
  | activated (pod : ResourcePath) (port : UInt16)
  | closed (key : SessionKey)
  | deleted (pod : ResourcePath)
deriving DecidableEq, Repr

def Info.message : Info → String
  | activated pod port => "PortForward activated " ++ pod.render ++ ":" ++ renderPort port
  | closed key => "PortForward " ++ key.render ++ " closed"
  | deleted pod => "PortForward " ++ pod.render ++ " deleted!"

/-- What a notice does to the interface. -/
inductive Effect where
  | showSelection (dialog : Nat)
  | showDeletion (dialog : Nat)
  | dismiss
  | info (news : Info)
  | error (failure : Failure)
  | refresh
deriving DecidableEq, Repr

def Effect.failure? : Effect → Option Failure
  | error failure => some failure
  | _ => none

def Effect.news? : Effect → Option Info
  | info news => some news
  | _ => none

inductive Subject where
  | flow (generation : Nat)
  | start (id : StartId)
  | session (id : SessionId)
deriving DecidableEq, Repr

/-- One thing that the interface of a controller was told. -/
structure Notice where
  controller : ControllerId
  about : Subject
  effect : Effect
deriving DecidableEq, Repr

end PodTunnels
