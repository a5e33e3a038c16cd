import PodTunnels.Text.Quoted
import PodTunnels.Tunnel

/-!
# What can go wrong

Failures are kept as causes. The wording of each stands in one place, `message`, so that two
failures with the same text are still told apart by what they are. A failure that wraps another
one, an operation of the system or a port that could not be bound, shows the inner text both inside
its own and as its source.

Removing a session that is not there is the one failure a caller may ignore.
-/

namespace PodTunnels

/-- What is wrong with a choice of ports. -/
inductive PortFault where
  | noneSelected
  | severalContainers
  | missingAddress
  | notAPort (text : String)
  | miscounted (expected given : Nat)
  | noneDeclared (pod : ResourcePath)
  | noMapping
  | noneToForward (key : SessionKey)
  | stated (text : String)
deriving DecidableEq, Repr, Inhabited

def PortFault.message : PortFault → String
  | noneSelected => "no port selected"
  | severalContainers => "all selected ports must belong to one container"
  | missingAddress => "missing local address"
  | notAPort text => "invalid port " ++ Text.quoted text
  | miscounted expected given =>
    "expected " ++ toString expected ++ " local port(s), got " ++ toString given
  | noneDeclared pod => "no TCP ports declared on " ++ pod.render
  | noMapping => "no port mapping"
  | noneToForward key => "no ports to forward for " ++ key.render
  | stated text => text

/-- Why what kubectl printed could not be used. -/
inductive DecodeFault where
  | malformed (what : String)
  | noSelector (path : ResourcePath)
deriving DecidableEq, Repr, Inhabited

def DecodeFault.message : DecodeFault → String
  | malformed what => "unusable " ++ what
  | noSelector path => path.render ++ " has no pod selector"

/-- A failure of a kubectl run, or of reading what it printed. -/
inductive KubectlFailure where
  | programMissing
  | notFound (text : String)
  | forbidden (text : String)
  | notConnected (text : String)
  | undecodable (fault : DecodeFault)
  | timedOut
  | deadlineOverflow
  | process (text : String)
  | command (text : String)
  | io (text : String)
deriving DecidableEq, Repr, Inhabited

namespace KubectlFailure

def message : KubectlFailure → String
  | programMissing => "kubectl not found"
  | notFound text => "resource not found: " ++ text
  | forbidden text => "access denied: " ++ text
  | notConnected text => "cluster not connected: " ++ text
  | undecodable fault => "failed to decode kubectl output: " ++ fault.message
  | timedOut => "kubectl command timed out"
  | deadlineOverflow => "overflow when adding durations"
  | process text => "kubectl process error: " ++ text
  | command text => "kubectl failed: " ++ text
  | io text => "I/O error: " ++ text

def source? : KubectlFailure → Option String
  | io text => some text
  | _ => none

def isNotConnected : KubectlFailure → Bool
  | notConnected _ => true
  | _ => false

end KubectlFailure

/-- The step of handling the configuration file that failed. -/
inductive ConfigStep where
  | locateHome
  | read
  | parse
  | createDirectory
  | createTemporary
  | writeTemporary
  | syncTemporary
  | rename
deriving DecidableEq, Repr, Inhabited

/-- The wording of a failed step, given what the system said about it. -/
def ConfigStep.message (step : ConfigStep) (detail : String) : String :=
  match step with
  | locateHome => "Could not determine home directory"
  | read => "Failed to read config: " ++ detail
  | parse => "Failed to parse config: " ++ detail
  | createDirectory => "Failed to create config directory: " ++ detail
  | createTemporary => "Failed to create temp config file: " ++ detail
  | writeTemporary => "Failed to write config: " ++ detail
  | syncTemporary => "Failed to sync config: " ++ detail
  | rename => "Failed to rename config file: " ++ detail

/-- A failure while managing tunnels. -/
inductive Failure where
  | kubectl (failure : KubectlFailure)
  | unsupportedKind (name : String)
  | portUnavailable (address : String) (port : UInt16) (reason : String)
  | duplicateSession (key : SessionKey)
  | transport (text : String)
  | notFound (key : SessionKey)
  | invalidPorts (fault : PortFault)
  | invalidTarget (text : String)
  | config (step : ConfigStep) (detail : String)
  | io (text : String)
deriving DecidableEq, Repr, Inhabited

namespace Failure

def message : Failure → String
  | kubectl failure => failure.message
  | unsupportedKind name => "expecting a controller resource for " ++ Text.quoted name
  | portUnavailable address port reason =>
    "port " ++ address ++ ":" ++ renderPort port ++ " is not available: " ++ reason
  | duplicateSession key =>
    "A port-forward is already active on this pod (" ++ key.render ++ ")"
  | transport text => "port-forward failed: " ++ text
  | notFound key => "no port-forward found for " ++ key.render
  | invalidPorts fault => "Invalid port specification: " ++ fault.message
  | invalidTarget text => "Invalid target: " ++ text
  | config step detail => "Configuration error: " ++ step.message detail
  | io text => "I/O error: " ++ text

def source? : Failure → Option String
  | kubectl failure => failure.source?
  | portUnavailable _ _ reason => some reason
  | io text => some text
  | _ => none

/-- Whether a caller may ignore the failure. -/
def isBenign : Failure → Bool
  | notFound _ => true
  | _ => false

end Failure

end PodTunnels
