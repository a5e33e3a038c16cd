import PodTunnels.Selection
import PodTunnels.Switchboard.Controller

/-!
# The form of the start dialog

While a start dialog is open the user edits a form around it: which candidates are checked, where
the cursor stands among them, which field has the focus, and the two texts. What is attempted when
the user confirms is the selection of the checked candidates, or of the one under the cursor when
none is checked. A selection that fails leaves its error with the form.
-/

namespace PodTunnels.Console

/-- The part of the form that takes the keys. -/
inductive Field where
  | ports
  | localPorts
  | address
deriving DecidableEq, Repr, Inhabited

namespace Field

/-- The field after another, in a circle. -/
def next : Field → Field
  | ports => localPorts
  | localPorts => address
  | address => ports

end Field

/-- The form around a start dialog. -/
structure Form where
  dialog : Nat
  pod : ResourcePath
  candidates : List Candidate
  checked : List Bool
  cursor : Nat := 0
  field : Field := .ports
  localPorts : String := ""
  address : String
  error : Option Failure := none
deriving DecidableEq, Repr

namespace Form

def ofDialog (number : Nat) (d : SelectionDialog) : Form where
  dialog := number
  pod := d.pod
  candidates := d.candidates
  checked := d.candidates.map fun _ => false
  address := d.address

/-- Check or uncheck the candidate under the cursor. -/
def toggle (f : Form) : Form :=
  { f with checked := f.checked.modify f.cursor not }

def nextField (f : Form) : Form :=
  { f with field := f.field.next }

def up (f : Form) : Form :=
  { f with cursor := f.cursor - 1 }

/-- Move the cursor down, as far as there are candidates. -/
def down (f : Form) : Form :=
  if f.cursor + 1 < f.checked.length then { f with cursor := f.cursor + 1 } else f

def edit (f : Form) (change : String → String) : Form :=
  match f.field with
  | .ports => f
  | .localPorts => { f with localPorts := change f.localPorts }
  | .address => { f with address := change f.address }

def chosen (f : Form) : List Candidate :=
  ((f.candidates.zip f.checked).filter Prod.snd).map Prod.fst

/-- The candidates that a selection is attempted for. -/
def attempted (f : Form) : List Candidate :=
  match f.chosen with
  | [] => f.candidates[f.cursor]?.toList
  | chosen => chosen

def selection (f : Form) : Except Failure Selection :=
  Selection.ofCandidates f.attempted f.localPorts f.address

end Form

end PodTunnels.Console
