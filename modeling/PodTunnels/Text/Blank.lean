import PodTunnels.Text.Ranges

/-!
# Blank characters and trimming

A character is blank when it has the `White_Space` property: the ASCII blanks, the next-line
control, the no-break space, and the spaces and separators of the general punctuation and CJK
blocks. The zero-width space and the byte order mark are not blank. Trimming removes blanks from
both ends of a text and keeps those inside.
-/

namespace PodTunnels.Text

def blankRanges : List (Nat × Nat) :=
  [(0x9, 0xD), (0x20, 0x20), (0x85, 0x85), (0xA0, 0xA0), (0x1680, 0x1680), (0x2000, 0x200A),
    (0x2028, 0x2029), (0x202F, 0x202F), (0x205F, 0x205F), (0x3000, 0x3000)]

def isBlank (c : Char) : Bool :=
  among blankRanges c

/-- The characters from the first to the last that is not blank. -/
def trimChars (cs : List Char) : List Char :=
  ((cs.dropWhile isBlank).reverse.dropWhile isBlank).reverse

/-- A text without the blanks at its two ends. -/
def trim (s : String) : String :=
  String.ofList (trimChars s.toList)

end PodTunnels.Text
