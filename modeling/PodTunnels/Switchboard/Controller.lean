import PodTunnels.Pod
import PodTunnels.Selection
import PodTunnels.Switchboard.Notice
import PodTunnels.UiQueue

/-!
# Controllers

A controller stands between one interface and the sessions. Its dialog flow has a generation, which
every trigger raises; whatever belongs to an older generation has no say any more. Confirmed starts
are no part of the flow: they are claims on session keys, and several may stand side by side.

The queue holds the work that background jobs hand back to the interface. The dialogs that were
shown are kept, each with the flag whether it was answered.
-/

namespace PodTunnels

/-- How far a dialog flow has come. -/
inductive Stage where
  | idle
  | resolving
  | awaitingSelection
  | awaitingDeletion
deriving DecidableEq, Repr, Inhabited

/-- The state of a controller as the interface may ask for it. -/
inductive FlowState where
  | dialog (stage : Stage)
  | validatingPorts
deriving DecidableEq, Repr

def FlowState.render : FlowState → String
  | dialog .idle => "Idle"
  | dialog .resolving => "Resolving"
  | dialog .awaitingSelection => "AwaitingPortSelection"
  | dialog .awaitingDeletion => "AwaitingDeleteConfirmation"
  | validatingPorts => "ValidatingPorts"

structure SelectionDialog where
  generation : Nat
  pod : ResourcePath
  candidates : List Candidate
  address : String
  answered : Bool := false
deriving DecidableEq, Repr

/-- A shown question whether to delete the sessions of a pod, with a line for each of them. -/
structure DeletionDialog where
  generation : Nat
  pod : ResourcePath
  sessions : List SessionId
  lines : List String
  answered : Bool := false
deriving DecidableEq, Repr

namespace DeletionDialog

def title : String := "Delete"

def message (d : DeletionDialog) : String :=
  "\n".intercalate (("Delete PortForward " ++ d.pod.render ++ "?") :: d.lines)

end DeletionDialog

/-- What is handed to the interface to be done there. -/
inductive Task where
  /-- A target was resolved to a pod. -/
  | resolved (generation : Nat) (result : Except Failure ResourcePath)
  /-- The ports of a pod were read. -/
  | portsRead (generation : Nat) (pod : ResourcePath) (result : Except Failure PodPorts)
  /-- The local ports of a start were checked. -/
  | checked (start : StartId) (key : SessionKey) (selection : Selection) (result : Except Failure Unit)
  /-- The tunnels of a session forward. -/
  | activate (session : SessionId)
  /-- The runner of a session has ended. -/
  | retire (session : SessionId) (outcome : Outcome)

/-- A controller and the queue of its interface. -/
structure Controller where
  address : String
  readySeconds : Nat
  stage : Stage := .idle
  generation : Nat := 0
  starts : OrderedMap SessionKey StartId := {}
  queue : UiQueue Task := {}
  selections : List SelectionDialog := []
  deletions : List DeletionDialog := []

namespace Controller

/-- The stage of the dialog flow, or else whether a start is pending. -/
def flowState (c : Controller) : FlowState :=
  if c.stage = .idle ∧ !c.starts.isEmpty then .validatingPorts else .dialog c.stage

/-- The number of confirmed starts that have neither been launched nor failed. -/
def pendingStarts (c : Controller) : Nat :=
  c.starts.size

/-- The controller with a new dialog flow. -/
def begin (c : Controller) (stage : Stage) : Controller :=
  { c with generation := c.generation + 1, stage }

/-- The controller with its flow at another stage, if the generation is the current one. -/
def advance (c : Controller) (generation : Nat) (stage : Stage) : Controller :=
  if c.generation = generation then { c with stage } else c

/-- The controller with a task queued, if its interface is still there. -/
def post (c : Controller) (task : Task) : Controller :=
  { c with queue := (c.queue.send task).2 }

def claim (c : Controller) (key : SessionKey) (start : StartId) : Controller :=
  { c with starts := c.starts.insert key start }

def release (c : Controller) (key : SessionKey) : Controller :=
  { c with starts := c.starts.erase key }

/-- The controller whose start dialog of a number was answered. -/
def answerSelection (c : Controller) (dialog : Nat) : Controller :=
  { c with selections := c.selections.modify dialog fun d => { d with answered := true } }

/-- The controller whose question of a number was answered. -/
def answerDeletion (c : Controller) (dialog : Nat) : Controller :=
  { c with deletions := c.deletions.modify dialog fun d => { d with answered := true } }

/-- The start dialog of a number, while it is unanswered. -/
def openSelection? (c : Controller) (dialog : Nat) : Option SelectionDialog :=
  c.selections[dialog]?.filter fun d => !d.answered

/-- The question of a number, while it is unanswered. -/
def openDeletion? (c : Controller) (dialog : Nat) : Option DeletionDialog :=
  c.deletions[dialog]?.filter fun d => !d.answered

end Controller

end PodTunnels
