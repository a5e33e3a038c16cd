import PodTunnels.Text.Columns
import PodTunnels.Text.Lines

/-!
# Rows of cells

The screen is a list of rows, and a row is a list of cells, one for each column. A cell holds the
symbol it shows. A symbol of several columns stands in the first of them and blanks in the others.

Texts are put into rows in two ways. A text that flows takes its graphemes one by one and leaves
out those without a column. A text that is laid is a line of its own: it keeps graphemes without a
column with the cell before them, and a line that takes no column at all is not shown. Both are cut
before the first grapheme that does not fit.
-/

namespace PodTunnels.Console

open PodTunnels.Text

/-- The symbols of a row, one for each column. -/
abbrev Row := List String

/-- Rows of the screen from top to bottom. -/
abbrev Rows := List Row

def blank : String := " "

/-- A row cut or filled up to a width. -/
def fitRow (width : Nat) (row : Row) : Row :=
  row.take width ++ List.replicate (width - row.length) blank

@[simp] theorem length_fitRow (width : Nat) (row : Row) : (fitRow width row).length = width := by
  simp [fitRow]
  omega

/-- The cells of a symbol of a number of columns. -/
def spread (symbol : String) (width : Nat) : Row :=
  symbol :: List.replicate (width - 1) blank

/-- The cells of graphemes that flow, as far as there is room. -/
def flow (room : Nat) : List String → Row
  | [] => []
  | g :: rest =>
    let w := columns g
    if room < w then []
    else if w = 0 then flow room rest
    else spread g w ++ flow (room - w) rest

/-- The cells of the lines of a text run together. Graphemes that are wider than the whole room are
left out. -/
def flowed (room : Nat) (s : String) : Row :=
  flow room (((lines s).flatMap graphemes).filter (columns · ≤ room))

/-- Add graphemes without a column to the last cell of a row. -/
def mark (row : Row) (marks : String) : Row :=
  match row.getLast? with
  | some symbol => row.dropLast ++ [symbol ++ marks]
  | none => [marks]

/-- The cells of graphemes that are laid after a row that uses a number of columns. Those without a
column that come before all others share the first cell. -/
def layAfter (room : Nat) (row : Row) (used : Nat) : List String → Row
  | [] => row
  | g :: rest =>
    let w := columns g
    if room < used + w then row
    else if w = 0 then layAfter room (mark row g) used rest
    else if used = 0 then layAfter room (spread (String.join row ++ g) w) w rest
    else layAfter room (row ++ spread g w) (used + w) rest

/-- The cells of a line that is laid. -/
def laid (room : Nat) (line : String) : Row :=
  if columns line = 0 || room = 0 then [] else layAfter room [] 0 (graphemes line)

/-- Lay lines one after another over a row, as far as there is room. -/
def layOver (room : Nat) (row : Row) : List String → Row
  | [] => row
  | line :: rest =>
    let w := columns line
    let symbols := laid room line
    let under := symbols ++ row.drop symbols.length
    under.take w ++ layOver (room - w) (under.drop w) rest

def lineColumns : List String → Nat
  | [] => 0
  | line :: rest => columns line + lineColumns rest

/-- A frame of a width and a height with a title in its upper border. It has room for rows of two
columns less, and for two rows less. -/
def frame (width height : Nat) (title : String) (rows : Rows) : Rows :=
  let inner := width - 2
  let bar := List.replicate inner "─"
  let captions := lines title
  let caption := layOver (min (lineColumns captions) inner) bar captions
  let edge (first last : String) (middle : Row) : Row := fitRow width (first :: middle ++ [last])
  let body := (List.range (height - 2)).map fun i =>
    edge "│" "│" (fitRow inner (rows[i]?.getD []))
  (edge "┌" "┐" caption :: body ++ [edge "└" "┘" bar]).take height

/-- Lay rows over others, with their upper left corner at a column and a row. -/
def overlay (screen : Rows) (column row : Nat) (block : Rows) : Rows :=
  screen.mapIdx fun i line =>
    if i < row then line
    else
      match block[i - row]? with
      | some part => line.take column ++ part ++ line.drop (column + part.length)
      | none => line

/-- The symbols of cells as they are shown after a cell that hides the next one or not. -/
def shownAfter (hides : Bool) : Row → Row
  | [] => []
  | symbol :: rest =>
    (if hides then blank else symbol) :: shownAfter (1 < columns symbol) rest

/-- The symbols of a row as they are shown: one of several columns hides the cell after it. -/
def Row.shown (row : Row) : Row :=
  shownAfter false row

end PodTunnels.Console
