import PodTunnels.Text.LowerCase.Table

/-!
# Lower-casing

Every character is replaced by its lower-case partner. Two characters need more than the table:
the capital I with a dot becomes two characters, and the capital sigma becomes the final sigma at
the end of a word, that is, when the nearest character before it that is not passed over has a
case and the nearest one after it has none.
-/

namespace PodTunnels.Text

namespace LowerCase

def Run.has (r : Run) (n : Nat) : Bool :=
  decide (r.first ≤ n) && decide (n ≤ r.last) && (n - r.first) % r.step == 0

/-- The single lower-case partner of a character, the character itself when it has none. -/
def partner (c : Char) : Char :=
  match runs.find? (·.has c.toNat) with
  | some r => Char.ofNat (c.toNat + r.shift).toNat
  | none => c

/-- Whether the first character that is not passed over has a case. -/
def meetsCased (cs : List Char) : Bool :=
  match cs.dropWhile (fun c => among passedRanges c) with
  | c :: _ => among casedRanges c
  | [] => false

/-- A character in lower case, given the characters before it, nearest first, and those after. -/
def lowerAt (before : List Char) (c : Char) (after : List Char) : List Char :=
  if c = 'Σ' then
    if meetsCased before && !meetsCased after then ['ς'] else ['σ']
  else if c = 'İ' then ['i', '\u0307']
  else [partner c]

/-- A text in lower case, given the characters before it, nearest first. -/
def lowerFrom : List Char → List Char → List Char
  | _, [] => []
  | before, c :: cs => lowerAt before c cs ++ lowerFrom (c :: before) cs

end LowerCase

def lowerCase (s : String) : String :=
  String.ofList (LowerCase.lowerFrom [] s.toList)

end PodTunnels.Text
