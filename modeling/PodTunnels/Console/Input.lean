import PodTunnels.Console.Basic
import PodTunnels.Switchboard.Move

/-!
# Keys

A key goes to the open dialog, if there is one, and otherwise to the listings and the bound keys.
Only Ctrl-C reaches past a dialog. A dialog is taken down before it is answered, and put back
unless it was answered; so whatever the answer shows comes to stand in its place.

Handling a key changes the console and may result in one move of the switchboard.
-/

namespace PodTunnels.Console

inductive KeyCode where
  | char (c : Char)
  | enter
  | escape
  | tab
  | backTab
  | up
  | down
  | left
  | backspace
  | delete
deriving DecidableEq, Repr

/-- A key and whether the control key was held. -/
structure KeyPress where
  code : KeyCode
  control : Bool := false
deriving DecidableEq, Repr

inductive Event where
  | press (key : KeyPress)
  | release (key : KeyPress)
  | resize
  | other
deriving DecidableEq, Repr

/-- What became of an event. -/
inductive Handling where
  | handled
  | notHandled
  | quit
deriving DecidableEq, Repr

/-- What became of an event, the console after it, and the move that it results in. -/
structure Reaction where
  handling : Handling
  console : State
  move : Option Move := none

/-- A key that the form of an open start dialog takes; the form without an answer. -/
def Form.press (f : Form) (code : KeyCode) : Form :=
  match code with
  | .tab => f.nextField
  | .up => if f.field = .ports then f.up else f
  | .down => if f.field = .ports then f.down else f
  | .backspace => f.edit fun s => String.ofList s.toList.dropLast
  | .char ' ' => if f.field = .ports then f.toggle else f.edit (·.push ' ')
  | .char c => f.edit (·.push c)
  | _ => f

namespace State

/-- A key for the open start dialog. -/
def pressSelection (c : State) (f : Form) (code : KeyCode) : Reaction :=
  match code with
  | .escape => ⟨.handled, c, some (.cancelSelection c.controller f.dialog)⟩
  | .enter =>
    match f.selection with
    | .ok s => ⟨.handled, c, some (.confirmSelection c.controller f.dialog s)⟩
    | .error e =>
      ⟨.handled, { c with modal := some (.selection { f with error := some e }) }, none⟩
  | code => ⟨.handled, { c with modal := some (.selection (f.press code)) }, none⟩

/-- A key for the open question before a deletion. -/
def pressDeletion (c : State) (number : Nat) (d : DeletionDialog) (code : KeyCode) : Reaction :=
  match code with
  | .char 'y' | .enter => ⟨.handled, c, some (.confirmDeletion c.controller number)⟩
  | .char 'n' | .escape => ⟨.handled, c, some (.cancelDeletion c.controller number)⟩
  | _ => ⟨.handled, { c with modal := some (.deletion number d) }, none⟩

def act (c : State) (registry : Registry) : KeyAction → Reaction
  | .refresh => ⟨.handled, c.requestRefresh, none⟩
  | .forward =>
    match c.selectedTarget registry with
    | some target => ⟨.handled, c, some (.trigger c.controller target)⟩
    | none => ⟨.notHandled, c, none⟩

def pressListing (c : State) (registry : Registry) (code : KeyCode) : Reaction :=
  match code with
  | .char 'q' | .escape => ⟨.quit, c.quit, none⟩
  | .tab => ⟨.handled, c.toggleView, none⟩
  | .char 'j' | .down => ⟨.handled, c.selectDown registry, none⟩
  | .char 'k' | .up => ⟨.handled, c.selectUp, none⟩
  | .char key =>
    match c.keys.get? key with
    | some binding => c.act registry binding.action
    | none => ⟨.notHandled, c, none⟩
  | _ => ⟨.notHandled, c, none⟩

def press (c : State) (registry : Registry) (key : KeyPress) : Reaction :=
  if key.control ∧ key.code = .char 'c' then ⟨.quit, c.quit, none⟩
  else
    match c.modal with
    | some (.selection f) => { c with modal := none }.pressSelection f key.code
    | some (.deletion number d) => { c with modal := none }.pressDeletion number d key.code
    | none => c.pressListing registry key.code

def handle (c : State) (registry : Registry) : Event → Reaction
  | .press key => c.press registry key
  | .release _ => ⟨.notHandled, c, none⟩
  | .resize => ⟨.handled, c, none⟩
  | .other => ⟨.notHandled, c, none⟩

end State

end PodTunnels.Console
