import PodTunnels.Json.Double
import PodTunnels.Text.Digit
import PodTunnels.Text.Split

/-!
# Numbers in JSON text

A number is given as it is written: its sign, its digits, how many of them stand after the point,
and its exponent. It is an integer only when it is written without point and exponent, is not a
negative zero, and fits 64 bits, signed when negative. As a part of a value it is that integer or
else a double, and a number that is too large for a double is no part of any value.
-/

namespace PodTunnels.Json

open PodTunnels.Text

/-- A number as written: `± digits × 10 ^ (exponent - fraction)`. -/
structure Number where
  negative : Bool
  digits : Nat
  fraction : Nat
  exponent : Int
  whole : Bool
deriving DecidableEq, Repr, Inhabited

namespace Number

/-- The number that writes a natural number without point and exponent. -/
def ofNat (n : Nat) : Number :=
  ⟨false, n, 0, 0, true⟩

/-- The integer a number denotes, if it is written as one and fits 64 bits. -/
def toInt? (n : Number) : Option Int :=
  if n.whole then
    if n.negative then
      if n.digits = 0 ∨ UInt64.size / 2 < n.digits then none else some (-(n.digits : Int))
    else if n.digits < UInt64.size then some (n.digits : Int)
    else none
  else none

/-- The natural number a number denotes, if it is an integer that is not negative. -/
def toNat? (n : Number) : Option Nat :=
  match n.toInt? with
  | some (.ofNat k) => some k
  | _ => none

/-- The power of ten that multiplies the digits. -/
def scale (n : Number) : Int :=
  n.exponent - n.fraction

theorem tenth_lt {n : Nat} (h : ¬n < UInt64.size) : n / 10 < n :=
  Nat.div_lt_self (Nat.lt_of_lt_of_le (by decide : 0 < UInt64.size) (Nat.le_of_not_lt h))
    (by decide)

/-- As many leading digits of a natural number as fit 64 bits, and how many others there are. -/
def clip (n : Nat) : Nat × Nat :=
  if h : n < UInt64.size then (n, 0)
  else
    have : n / 10 < n := tenth_lt h
    let (kept, left) := clip (n / 10)
    (kept, left + 1)
termination_by n

/-- The double that a number is read as, without its sign. Of the digits before the point, and
then of these and the digits after it, only as many count as fit 64 bits. -/
def double? (n : Number) : Option Double :=
  let point := Nat.pow 10 n.fraction
  let (before, left) := clip (n.digits / point)
  let (significand, right) := clip (before * point + n.digits % point)
  Double.ofScaled? significand (n.scale + left + right)

/-- The number that writes all digits of a double. -/
def ofDouble (negative : Bool) (d : Double) : Number :=
  match d.exponent with
  | .ofNat k => ⟨negative, d.mantissa <<< k, 0, 0, false⟩
  | .negSucc k => ⟨negative, d.mantissa * Nat.pow 5 (k + 1), k + 1, 0, false⟩

/-- The number as a part of a value: the integer itself, or the double that it is read as. -/
def value? (n : Number) : Option Number :=
  if n.toInt?.isSome then some n else n.double?.map (ofDouble n.negative)

def takeDigits (cs : List Char) : Option (List Char × List Char) :=
  match cs.takeWhile isAsciiDigit with
  | [] => none
  | ds => some (ds, cs.dropWhile isAsciiDigit)

/-- The exponent at the head of what follows the digits; nothing may come after it. -/
def parseExponent : List Char → Option (Option Int)
  | [] => some none
  | c :: cs =>
    if c = 'e' ∨ c = 'E' then
      let (negative, ds) :=
        match cs with
        | '-' :: rest => (true, rest)
        | '+' :: rest => (false, rest)
        | rest => (false, rest)
      match takeDigits ds with
      | some (ds, []) =>
        let n : Int := digitsValue ds
        some (some (if negative then -n else n))
      | _ => none
    else none

/-- The number that a list of characters writes: a sign, digits without a needless leading zero,
a fraction with at least one digit, an exponent with at least one digit. -/
def parse? (cs : List Char) : Option Number := do
  let (negative, cs) :=
    match cs with
    | '-' :: rest => (true, rest)
    | rest => (false, rest)
  let (ds, cs) ← takeDigits cs
  if ds.length ≠ 1 ∧ ds.head? = some '0' then none
  else
    match cs with
    | '.' :: rest =>
      let (fs, rest) ← takeDigits rest
      let exponent ← parseExponent rest
      return ⟨negative, digitsValue (ds ++ fs), fs.length, exponent.getD 0, false⟩
    | rest =>
      let exponent ← parseExponent rest
      return ⟨negative, digitsValue ds, 0, exponent.getD 0, exponent.isNone⟩

/-- The digits of a number in decimal. An integer is written as such; any other number is written
with its power of ten. -/
def render (n : Number) : String :=
  let sign := if n.negative then "-" else ""
  let digits := toString n.digits
  if n.toInt?.isSome then sign ++ digits else sign ++ digits ++ "e" ++ toString n.scale

end Number

end PodTunnels.Json
