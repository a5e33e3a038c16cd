import PodTunnels.Session

/-!
# Transports

A transport carries the tunnels of one session. A plan says how it behaves: whether it can be
opened, when it reports readiness, and what a request to close does to it. Whatever a plan leaves
open is decided by signals, which may come at any time and are kept until they are asked for.

A signal reaches a transport only while something could still listen to it. That ends when whoever
holds the transport drops it, and for readiness also when the waiting for it is over.
-/

namespace PodTunnels

/-- When a transport reports readiness. -/
inductive Readiness where
  | atOnce
  | onSignal
  | failing (failure : Failure)
deriving DecidableEq, Repr, Inhabited

/-- What closing does to a transport. -/
inductive CloseManner where
  | terminated
  | clean
  | ignored
deriving DecidableEq, Repr, Inhabited

/-- How a transport behaves. -/
structure Plan where
  openFailure : Option Failure := none
  rival : Bool := false
  ready : Readiness := .atOnce
  close : CloseManner := .terminated
deriving DecidableEq, Repr

/-- Who asked for a transport. -/
inductive Occasion where
  | start
  | rival
  | direct
deriving DecidableEq, Repr

structure Transport where
  key : SessionKey
  tunnels : List Tunnel
  occasion : Occasion
  plan : Plan
  readySignal : Option Outcome := none
  finishSignal : Option Outcome := none
  hearsReady : Bool := true
  hearsFinish : Bool := true
deriving DecidableEq, Repr

namespace Transport

/-- What a transport has reported about its readiness so far. -/
def readiness (t : Transport) : Option Outcome :=
  match t.plan.ready with
  | .atOnce => some .success
  | .failing e => some (.failed e)
  | .onSignal => t.readySignal

/-- What a transport that ends because it was closed reports. -/
def closeOutcome : CloseManner → Option Outcome
  | .terminated => some (.failed (.transport "signal: terminated"))
  | .clean => some .success
  | .ignored => none

/-- How a transport has ended so far, given whether it was closed. A close comes before a
signal. -/
def ending (t : Transport) (closed : Bool) : Option Outcome :=
  (if closed then closeOutcome t.plan.close else none).or t.finishSignal

/-- Nobody holds the transport any more. -/
def drop (t : Transport) : Transport :=
  { t with hearsReady := false, hearsFinish := false }

/-- The waiting for readiness is over. -/
def stopAwaiting (t : Transport) : Transport :=
  if t.plan.ready = .onSignal then { t with hearsReady := false } else t

/-- Whether a readiness signal would be delivered. -/
def takesReady (t : Transport) : Bool :=
  t.hearsReady && t.readySignal.isNone

/-- Whether a finish signal would be delivered. -/
def takesFinish (t : Transport) : Bool :=
  t.hearsFinish && t.finishSignal.isNone

def label (t : Transport) : String :=
  let ends := t.tunnels.map fun tunnel => tunnel.render ++ "@" ++ tunnel.address
  let key := t.key.render
  match t.occasion with
  | .start => key ++ " " ++ ",".intercalate ends
  | .rival => "rival " ++ key
  | .direct => "session " ++ key ++ " " ++ ",".intercalate ends

end Transport

end PodTunnels
