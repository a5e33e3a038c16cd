/-!
# Lines

A line ends at a line feed, or at the end of the text when something stands there. A carriage
return before the line feed belongs to the line's end; one at the end of the text does not. The
rule is the same for bytes and for characters, so it is stated once for any alphabet.
-/

namespace PodTunnels.Text

variable {α : Type} [BEq α]

/-- A line without the carriage return that ended it. -/
def dropReturn (ret : α) (line : List α) : List α :=
  match line.getLast? with
  | some c => if c == ret then line.dropLast else line
  | none => line

/-- The lines of a text over an alphabet, given what stands in the current line in reverse. -/
def cutLinesFrom (feed ret : α) : List α → List α → List (List α)
  | current, [] => if current.isEmpty then [] else [current.reverse]
  | current, c :: cs =>
    if c == feed then dropReturn ret current.reverse :: cutLinesFrom feed ret [] cs
    else cutLinesFrom feed ret (c :: current) cs

/-- The lines of a text over an alphabet with the line feed `feed` and the return `ret`. -/
def cutLines (feed ret : α) (cs : List α) : List (List α) :=
  cutLinesFrom feed ret [] cs

def lines (s : String) : List String :=
  (cutLines '\n' '\r' s.toList).map String.ofList

/-- The lines of a byte stream. -/
def byteLines (bytes : List UInt8) : List (List UInt8) :=
  cutLines 10 13 bytes

end PodTunnels.Text
