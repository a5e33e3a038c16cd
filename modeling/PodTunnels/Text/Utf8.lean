/-!
# UTF-8

Bytes are read one at a time. Between characters nothing is owed; after the first byte of a longer
character a number of continuation bytes is owed, and the next of them lies in a range that leaves
out overlong forms, halves of surrogate pairs and numbers beyond the last code point.

A reading is a list of pieces. A piece is a character or a fault: the longest run of bytes that
starts a character and cannot be continued, or one byte that starts none; at the end of the bytes
a character may also be unfinished. The strict reading has no fault and otherwise tells the first
one; the lenient one puts the replacement character for each.
-/

namespace PodTunnels.Text.Utf8

/-- A character of which some bytes are read: how many they are, how many more are owed, the range
of the next one, and the bits read so far. -/
structure Begun where
  read : Nat
  owed : Nat
  low : UInt8
  high : UInt8
  bits : Nat

/-- What the first byte of a character says. -/
inductive Lead where
  | whole (c : Char)
  | begun (p : Begun)
  | fault

def lead (b : UInt8) : Lead :=
  let n := b.toNat
  if n < 0x80 then .whole (Char.ofNat n)
  else if n < 0xC2 then .fault
  else if n < 0xE0 then .begun ⟨1, 1, 0x80, 0xBF, n - 0xC0⟩
  else if n = 0xE0 then .begun ⟨1, 2, 0xA0, 0xBF, 0⟩
  else if n = 0xED then .begun ⟨1, 2, 0x80, 0x9F, 0xD⟩
  else if n < 0xF0 then .begun ⟨1, 2, 0x80, 0xBF, n - 0xE0⟩
  else if n = 0xF0 then .begun ⟨1, 3, 0x90, 0xBF, 0⟩
  else if n < 0xF4 then .begun ⟨1, 3, 0x80, 0xBF, n - 0xF0⟩
  else if n = 0xF4 then .begun ⟨1, 3, 0x80, 0x8F, 4⟩
  else .fault

inductive Piece where
  | char (c : Char)
  /-- Bytes that start a character and cannot be continued, or one that starts none. -/
  | invalid (length : Nat)
  /-- The start of a character at the end of the bytes. -/
  | unfinished
deriving DecidableEq, Repr

/-- The pieces of a byte string, given the character that is begun. -/
def pieces : Option Begun → List UInt8 → List Piece
  | none, [] => []
  | some _, [] => [.unfinished]
  | none, b :: bs =>
    match lead b with
    | .whole c => .char c :: pieces none bs
    | .begun p => pieces (some p) bs
    | .fault => .invalid 1 :: pieces none bs
  | some p, b :: bs =>
    if p.low ≤ b ∧ b ≤ p.high then
      let bits := 64 * p.bits + (b.toNat - 0x80)
      if p.owed ≤ 1 then .char (Char.ofNat bits) :: pieces none bs
      else pieces (some ⟨p.read + 1, p.owed - 1, 0x80, 0xBF, bits⟩) bs
    else
      match lead b with
      | .whole c => .invalid p.read :: .char c :: pieces none bs
      | .begun q => .invalid p.read :: pieces (some q) bs
      | .fault => .invalid p.read :: .invalid 1 :: pieces none bs

/-- Why bytes are no text. The index counts the bytes before the fault. -/
inductive Fault where
  | invalid (index length : Nat)
  | unfinished (index : Nat)
deriving DecidableEq, Repr

def Fault.message : Fault → String
  | invalid index length =>
    "invalid utf-8 sequence of " ++ toString length ++ " bytes from index " ++ toString index
  | unfinished index => "incomplete utf-8 byte sequence from index " ++ toString index

/-- The characters of pieces that have no fault, or the first fault. -/
def charsFrom (index : Nat) : List Piece → Except Fault (List Char)
  | [] => .ok []
  | .char c :: ps => (charsFrom (index + c.utf8Size) ps).map (c :: ·)
  | .invalid length :: _ => .error (.invalid index length)
  | .unfinished :: _ => .error (.unfinished index)

/-- The text that bytes encode, or the first fault in them. -/
def decode (bytes : List UInt8) : Except Fault String :=
  (charsFrom 0 (pieces none bytes)).map String.ofList

/-- The text that bytes encode; `none` when they hold a fault. -/
def decode? (bytes : List UInt8) : Option String :=
  (decode bytes).toOption

/-- The character that a piece is shown as. -/
def Piece.shown : Piece → Char
  | char c => c
  | invalid _ | unfinished => '\uFFFD'

/-- The text that bytes encode, with the replacement character for every fault. -/
def decodeLenient (bytes : List UInt8) : String :=
  String.ofList ((pieces none bytes).map Piece.shown)

/-- The bytes of a text. -/
def encode (s : String) : List UInt8 :=
  s.toUTF8.toList

end PodTunnels.Text.Utf8
