import PodTunnels.Console.Basic
import PodTunnels.Console.Canvas
import PodTunnels.Text.Lines
import PodTunnels.Text.Shorten

/-!
# The screen

From top to bottom the screen shows a heading, the table of the shown listing and a line of help,
each in a frame; an open dialog is laid over the middle. What does not fit is cut off. Where there
is room for one line only, a text of several shows its first; the lines of a form and the titles of
frames are run together instead. On a screen without room for all of it the line of help is shown
first, then the heading, then the table.

A table has a row of titles, an empty row, and as many rows of its listing as fit; when the cursor
is further down than that, the rows move up until it is the last one shown.
-/

namespace PodTunnels.Console

open PodTunnels.Text

def firstLine (s : String) : String :=
  (lines s).headD ""

/-- Lay a frame of at most a width and a height over the middle of a screen. -/
def overlayCentered (screen : Rows) (width height : Nat) (outerWidth outerHeight : Nat)
    (title : String) (paragraph : List String) : Rows :=
  let w := min width outerWidth
  let h := min height outerHeight
  overlay screen ((outerWidth - w) / 2) ((outerHeight - h) / 2)
    (frame w h title (paragraph.map (flowed (w - 2))))

/-- A row of cells in columns of given widths, one space apart. -/
def cells (widths : List Nat) (texts : List String) : Row :=
  [blank].intercalate ((widths.zip texts).map fun (w, text) => fitRow w (laid w (firstLine text)))

/-- The rows of a table of a height, scrolled just so far that the row of the cursor is shown. -/
def table (height : Nat) (titles : Row) (rows : Rows) (cursor : Nat) : Rows :=
  let room := height - 2
  let offset := min cursor (rows.length - 1) + 1 - room
  titles :: [] :: (rows.drop offset).take room

def podColumns (width : Nat) : List Nat :=
  [40, 10, width - (40 + 10 + 3 + 3), 3]

def podRow (width : Nat) (registry : Registry) (p : PodSummary) : Row :=
  let ports := ",".intercalate ((tcpCandidates p.ports).map Candidate.render)
  cells (podColumns width)
    [shorten 40 p.path.name, p.phase, shorten 50 ports,
      if State.isForwarded registry p.path then "●" else " "]

def forwardColumns (width : Nat) : List Nat :=
  [40, 15, 15, width - (40 + 15 + 15 + 12 + 8 + 5), 12, 8]

/-- The row of a forward. Ages are shown as those of new sessions. -/
def forwardRow (width : Nat) (f : Forward) : Row :=
  cells (forwardColumns width)
    [shorten 40 f.key.pod.render, shorten 15 f.key.container, shorten 15 f.address, f.ports,
      f.state.render, "0s"]

def heading (c : State) (registry : Registry) : String :=
  "podfwd | ns: " ++ c.ns ++ " | " ++ toString c.pods.length ++ " pods | " ++
    toString registry.size ++ " forwards" ++ if c.loading then " | loading…" else ""

/-- The line of help, after the message if there is one. -/
def footer (c : State) : String :=
  let hints := c.keys.hints.map fun (key, label) => String.singleton key ++ ": " ++ label
  let help := " | ".intercalate hints ++ " | j/k: navigate | Tab: switch view | q: quit"
  match c.flash with
  | some f => f.text ++ " | " ++ help
  | none => help

def formLines (f : Form) : List String :=
  let candidates := (f.candidates.zip f.checked).map fun (c, checked) =>
    "  " ++ (if checked then "[x]" else "[ ]") ++ " " ++ c.render
  let localPorts := if f.localPorts.isEmpty then "(same as container)" else f.localPorts
  ["Container ports:"] ++ candidates ++
    ["", "Local ports: " ++ localPorts, "Address:     " ++ f.address] ++
    (f.error.map Failure.message).toList ++
    ["Space: toggle | Tab: next field | Enter: OK | Esc: cancel"]

/-- Lay the open dialog over a screen of a width and a height. -/
def overlayModal (screen : Rows) (width height : Nat) : Option Modal → Rows
  | some (.selection f) =>
    overlayCentered screen 60 (f.candidates.length + 9) width height
      (" PortForward " ++ f.pod.render ++ " ") (formLines f)
  | some (.deletion _ d) =>
    let lines := lines d.message
    overlayCentered screen 60 (lines.length + 4) width height
      (" " ++ DeletionDialog.title ++ " ") (lines ++ ["y: yes | n: no"])
  | none => screen

def listing (c : State) (registry : Registry) (width height : Nat) : Rows :=
  let inner := width - 2
  match c.view with
  | .pods =>
    frame width height " Pods "
      (table (height - 2) (cells (podColumns inner) ["NAME", "STATUS", "PORTS", "PF"])
        (c.pods.map (podRow inner registry)) c.selected)
  | .forwards =>
    frame width height " Port-Forwards "
      (table (height - 2)
        (cells (forwardColumns inner)
          ["POD", "CONTAINER", "ADDRESS", "PORTS", "STATE", "AGE"])
        (registry.snapshot.map (forwardRow inner)) c.forwardSelected)

/-- A line of a text in a frame as wide as the screen. -/
def banner (width height : Nat) (text : String) : Rows :=
  frame width height "" [flowed (width - 2) (firstLine text)]

def screen (c : State) (registry : Registry) (width height : Nat) : Rows :=
  let base :=
    banner width (min 3 (height - 3)) (heading c registry) ++
      listing c registry width (height - 6) ++ banner width (min 3 height) (footer c)
  overlayModal base width height c.modal

/-- The rows of a screen as texts without spaces at their ends. -/
def Rows.texts (rows : Rows) : List String :=
  rows.map fun row =>
    String.ofList (((String.join row.shown).toList.reverse.dropWhile (· = ' ')).reverse)

end PodTunnels.Console
