import PodTunnels.Text.Columns.Table
import PodTunnels.Text.Grapheme

/-!
# Columns of a text

A terminal gives a character one column, two, or none. A text can take fewer columns than its
characters do one by one, and then it is counted as a whole: emoji that a joiner puts together take
the two columns of the first, a modifier of an emoji takes none, a variation selector makes one
character out of its kind an emoji and another a plain text, and some scripts write two letters as
one.
-/

namespace PodTunnels.Text

namespace Columns

open Grapheme (extendRanges joiner)

/-- The selector that makes the character before it a plain text. -/
def textSelector : Char := '\ufe0e'

/-- The selector that makes the character before it an emoji. -/
def emojiSelector : Char := '\ufe0f'

/-- Whether a character gives the emoji before it a tone of skin. -/
def isModifier (c : Char) : Bool :=
  decide (0x1F3FB ≤ c.toNat) && decide (c.toNat ≤ 0x1F3FF)

/-- Whether a character takes no column. -/
def isZero (c : Char) : Bool :=
  decide (0xA0 < c.toNat) && !isModifier c && (among extendRanges c || among zeroRanges c)

/-- The columns of a character by itself. The controls take one like letters do. -/
def ofChar (c : Char) : Nat :=
  if c.toNat ≤ 0xA0 then 1
  else if isZero c then 0
  else if c.toNat = 0x17D8 then 3
  else if among wideRanges c then 2
  else 1

/-- What a character stands behind, as far as emoji care. -/
inductive Joint where
  /-- Nothing of an emoji. -/
  | plain
  /-- An emoji. -/
  | emoji
  /-- An emoji that takes a modifier. -/
  | base
  /-- An emoji and a joiner. -/
  | joined
  deriving DecidableEq, Repr

/-- What stands before the character after a joiner. -/
def Joint.join : Joint → Joint
  | .emoji | .base => .joined
  | .plain | .joined => .plain

/-- What stands before the character after a selector of emoji. -/
def Joint.select : Joint → Joint
  | .base => .emoji
  | j => j

/-- Whether a character is turned into a plain text of one column by what follows it. -/
def isText (c : Char) (next : Option Char) : Bool :=
  next = some textSelector && among emojiTextRanges c

/-- Whether a character is shown as an emoji before what follows it. -/
def isEmoji (c : Char) (next : Option Char) : Bool :=
  isModifier c || (next = some emojiSelector && among textEmojiRanges c) ||
    (decide (0xA0 < c.toNat) && !isText c next &&
      (among emojiRanges c || (next.any isModifier && among modifiableRanges c)))

/-- The columns of characters behind others, when no two of them are written as one letter. -/
def count : Joint → List Char → Nat
  | _, [] => 0
  | j, c :: rest =>
    let next := rest.head?
    if j = .base && isModifier c then count .emoji rest
    else if isEmoji c next then
      (if j = .joined then 0 else 2) +
        count (if among modifiableRanges c then .base else .emoji) rest
    else if c = joiner then count j.join rest
    else if c = emojiSelector then count j.select rest
    else (if isText c next then 1 else ofChar c) + count .plain rest

/-- Two letters that are written as one. -/
structure Ligature where
  /-- The first of the two. -/
  first : List (Nat × Nat)
  /-- The last of the two. -/
  last : List (Nat × Nat)
  /-- What has to stand between them, if anything has. -/
  links : List (Nat × Nat) := []
  /-- What may stand between them besides. -/
  passes : Char → Bool := among transparentRanges

/-- Whether the characters after the first of the two complete a ligature. -/
def Ligature.isCompleted (l : Ligature) (linked : Bool) : List Char → Bool
  | [] => false
  | c :: rest =>
    if linked && among l.last c then true
    else if among l.links c then l.isCompleted true rest
    else l.passes c && l.isCompleted linked rest

/-- Whether characters begin with the ligature. -/
def Ligature.begins (l : Ligature) : List Char → Bool
  | [] => false
  | c :: rest => among l.first c && l.isCompleted l.links.isEmpty rest

/-- Lam and alef, with marks but no joiners or directions of text between them. -/
def lamAlef : Ligature where
  first := lamRanges
  last := alefRanges
  passes c := isZero c && !among [(0x200C, 0x200D), (0x2066, 0x2069)] c

def ligatures : List Ligature :=
  let joiner := [(0x200D, 0x200D)]
  let tifinagh := [(0x2D31, 0x2D65), (0x2D6F, 0x2D6F)]
  [lamAlef,
    { first := [(0x17D2, 0x17D2)], last := coengRanges },
    { first := [(0xA4F8, 0xA4FB)], last := [(0xA4FC, 0xA4FD)] },
    { first := [(0x5D0, 0x5D0)], last := [(0x5DC, 0x5DC)], links := joiner },
    { first := [(0x10C32, 0x10C32)], last := [(0x10C03, 0x10C03)], links := joiner },
    { first := tifinagh, last := tifinagh, links := (0x2D7F, 0x2D7F) :: joiner }]

/-- How many ligatures there are among characters. -/
def countLigatures : List Char → Nat
  | [] => 0
  | c :: rest =>
    (if 0xA0 < c.toNat && ligatures.any (·.begins (c :: rest)) then 1 else 0) + countLigatures rest

end Columns

/-- The columns that a terminal gives a text. -/
def columns (s : String) : Nat :=
  Columns.count .plain s.toList - Columns.countLigatures s.toList

end PodTunnels.Text
