import PodTunnels.Console.Form
import PodTunnels.Console.Keys
import PodTunnels.Registry

/-!
# The console

The console shows two listings, the pods of a namespace and the forwards of the registry, and at
most one dialog over them. It remembers a cursor for each listing, the last message, whether a
reload of the pods was asked for and whether one is under way.

The forwards are never stored: they are read off the registry whenever they are needed. So the
cursor among them is only bounded by their number at the time it was moved.
-/

namespace PodTunnels.Console

inductive View where
  | pods
  | forwards
deriving DecidableEq, Repr, Inhabited

/-- The two kinds of messages. -/
inductive Level where
  | info
  | error
deriving DecidableEq, Repr, Inhabited

/-- A message and when it was shown, in milliseconds. -/
structure Flash where
  level : Level
  text : String
  shownAt : Nat
deriving DecidableEq, Repr

inductive Modal where
  | selection (form : Form)
  | deletion (number : Nat) (dialog : DeletionDialog)
deriving DecidableEq, Repr

structure State where
  controller : ControllerId
  ns : String
  pods : List PodSummary := []
  selected : Nat := 0
  forwardSelected : Nat := 0
  view : View := .pods
  modal : Option Modal := none
  keys : KeyTable KeyAction := consoleKeys
  flash : Option Flash := none
  loading : Bool := false
  refreshRequested : Bool := true
  quitting : Bool := false

/-- How long a message stays, in milliseconds. -/
def flashDuration : Nat := 5000

namespace State

def showFlash (c : State) (level : Level) (text : String) (now : Nat) : State :=
  { c with flash := some ⟨level, text, now⟩ }

/-- Drop the message once its time is over. -/
def expireFlash (c : State) (now : Nat) : State :=
  match c.flash with
  | some f => if f.shownAt + flashDuration ≤ now then { c with flash := none } else c
  | none => c

def requestRefresh (c : State) : State :=
  { c with refreshRequested := true }

def takeRefreshRequest (c : State) : Bool × State :=
  if c.refreshRequested then (true, { c with refreshRequested := false, loading := true })
  else (false, c)

/-- Put in the outcome of a reload. -/
def setPods (c : State) (result : Except KubectlFailure (List PodSummary)) (now : Nat) : State :=
  let c := { c with loading := false }
  match result with
  | .ok pods => { c with pods, selected := min c.selected (pods.length - 1) }
  | .error e => c.showFlash .error e.message now

def toggleView (c : State) : State :=
  { c with view := match c.view with
    | .pods => .forwards
    | .forwards => .pods }

def rowCount (c : State) (registry : Registry) : Nat :=
  match c.view with
  | .pods => c.pods.length
  | .forwards => registry.size

def cursor (c : State) : Nat :=
  match c.view with
  | .pods => c.selected
  | .forwards => c.forwardSelected

def setCursor (c : State) (row : Nat) : State :=
  match c.view with
  | .pods => { c with selected := row }
  | .forwards => { c with forwardSelected := row }

/-- Move the cursor down, as far as there are rows. -/
def selectDown (c : State) (registry : Registry) : State :=
  if c.cursor + 1 < c.rowCount registry then c.setCursor (c.cursor + 1) else c

def selectUp (c : State) : State :=
  c.setCursor (c.cursor - 1)

def selectedTarget (c : State) (registry : Registry) : Option Target :=
  match c.view with
  | .pods => c.pods[c.selected]?.map fun p => .ofPod p.path
  | .forwards =>
    (registry.sessions[c.forwardSelected]?.bind registry.session?).map fun s => .ofPod s.pod

/-- Whether a pod has a live forward. -/
def isForwarded (registry : Registry) (pod : ResourcePath) : Bool :=
  !(registry.allForPod pod).isEmpty

def quit (c : State) : State :=
  { c with quitting := true }

end State

end PodTunnels.Console
