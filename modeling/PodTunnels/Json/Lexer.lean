import PodTunnels.Json.Number

/-!
# Tokens of JSON text

The text is read one character at a time. Between tokens the scanner skips blanks and starts a
token; inside a word, a number or a string it collects characters. A string ends at its quotation
mark; a word or a number ends where a character stands that it cannot hold, and that character is
then read as if between tokens.

A string token holds the text, with every escape resolved, or `none` when an escape names half of
a surrogate pair whose other half does not follow. Characters below the space are refused in
strings.
-/

namespace PodTunnels.Json

/-- A token. `mark` is one of the six structural characters. -/
inductive Token where
  | mark (c : Char)
  | null
  | bool (b : Bool)
  | number (n : Number)
  | string (s : Option String)
deriving Repr

namespace Lexer

/-- A string of which some characters are read: those characters in reverse, the first half of a
surrogate pair that waits for its second, and whether a half was left alone. -/
structure Reading where
  reversed : List Char := []
  half : Option Nat := none
  broken : Bool := false

namespace Reading

/-- Give up waiting for the second half of a pair. -/
def settle (r : Reading) : Reading :=
  { r with half := none, broken := r.broken || r.half.isSome }

def push (r : Reading) (c : Char) : Reading :=
  let r := r.settle
  { r with reversed := c :: r.reversed }

/-- The string with the character, or half of a pair, that a code unit names. -/
def pushUnit (r : Reading) (u : Nat) : Reading :=
  if 0xD800 ≤ u ∧ u < 0xDC00 then { r.settle with half := some u }
  else if 0xDC00 ≤ u ∧ u < 0xE000 then
    match r.half with
    | some h =>
      { r with
        reversed := Char.ofNat (0x10000 + (h - 0xD800) * 0x400 + (u - 0xDC00)) :: r.reversed
        half := none }
    | none => { r with broken := true }
  else r.push (Char.ofNat u)

def text (r : Reading) : Option String :=
  let r := r.settle
  if r.broken then none else some (String.ofList r.reversed.reverse)

end Reading

inductive State where
  | between
  | word (reversed : List Char)
  | number (reversed : List Char)
  | string (r : Reading)
  | escape (r : Reading)
  | unit (r : Reading) (left : Nat) (u : Nat)

/-- A blank between tokens. -/
def isSpace (c : Char) : Bool :=
  c == ' ' || c == '\t' || c == '\n' || c == '\r'

/-- A structural character. -/
def isMark (c : Char) : Bool :=
  c == '[' || c == ']' || c == '{' || c == '}' || c == ',' || c == ':'

def isWordChar (c : Char) : Bool :=
  decide ('a' ≤ c) && decide (c ≤ 'z')

def startsNumber (c : Char) : Bool :=
  Text.isAsciiDigit c || c == '-'

def isNumberChar (c : Char) : Bool :=
  Text.isAsciiDigit c || c == '-' || c == '+' || c == '.' || c == 'e' || c == 'E'

/-- The value of a hexadecimal digit of either case. -/
def hexDigit? (c : Char) : Option Nat :=
  if Text.isAsciiDigit c then some (c.toNat - '0'.toNat)
  else if 'a' ≤ c ∧ c ≤ 'f' then some (c.toNat - 'a'.toNat + 10)
  else if 'A' ≤ c ∧ c ≤ 'F' then some (c.toNat - 'A'.toNat + 10)
  else none

/-- The character that a one-letter escape stands for. -/
def escaped? (c : Char) : Option Char :=
  match c with
  | '"' => some '"'
  | '\\' => some '\\'
  | '/' => some '/'
  | 'b' => some '\x08'
  | 'f' => some '\x0c'
  | 'n' => some '\n'
  | 'r' => some '\r'
  | 't' => some '\t'
  | _ => none

def wordToken? (cs : List Char) : Option Token :=
  match String.ofList cs with
  | "null" => some .null
  | "true" => some (.bool true)
  | "false" => some (.bool false)
  | _ => none

/-- A character between tokens: the token that it is, if it is one, and the state after it. -/
def start (c : Char) : Option (List Token × State) :=
  if isSpace c then some ([], .between)
  else if isMark c then some ([.mark c], .between)
  else if c = '"' then some ([], .string {})
  else if isWordChar c then some ([], .word [c])
  else if startsNumber c then some ([], .number [c])
  else none

/-- One character: the tokens that end with it and the state after it. -/
def step : State → Char → Option (List Token × State)
  | .between, c => start c
  | .word cs, c =>
    if isWordChar c then some ([], .word (c :: cs))
    else do
      let token ← wordToken? cs.reverse
      let (more, state) ← start c
      return (token :: more, state)
  | .number cs, c =>
    if isNumberChar c then some ([], .number (c :: cs))
    else do
      let n ← Number.parse? cs.reverse
      let (more, state) ← start c
      return (.number n :: more, state)
  | .string r, c =>
    if c = '"' then some ([.string r.text], .between)
    else if c = '\\' then some ([], .escape r)
    else if c.toNat < 0x20 then none
    else some ([], .string (r.push c))
  | .escape r, c =>
    if c = 'u' then some ([], .unit r 4 0)
    else (escaped? c).map fun e => ([], .string (r.push e))
  | .unit r left u, c => do
    let d ← hexDigit? c
    let u := 16 * u + d
    if left ≤ 1 then some ([], .string (r.pushUnit u)) else some ([], .unit r (left - 1) u)

/-- The token that the end of the text completes. -/
def finish : State → Option (List Token)
  | .between => some []
  | .word cs => (wordToken? cs.reverse).map fun t => [t]
  | .number cs => (Number.parse? cs.reverse).map fun n => [.number n]
  | .string _ => none
  | .escape _ => none
  | .unit _ _ _ => none

def scan : State → List Char → Option (List Token)
  | state, [] => finish state
  | state, c :: cs => do
    let (tokens, state) ← step state c
    let rest ← scan state cs
    return tokens ++ rest

end Lexer

/-- The tokens of a JSON text; `none` when some part of it is no token. -/
def tokens? (text : String) : Option (List Token) :=
  Lexer.scan .between text.toList

end PodTunnels.Json
