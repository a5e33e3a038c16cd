/-!
# Doubles

A number of a JSON value that is no 64-bit integer is kept as a double, and reading it takes a few
steps of double arithmetic, each of which rounds. This module has those steps in exact integers.
A finite double is given without its sign as a natural number times a power of two. Every
operation works out a fraction exactly and rounds it once: to 53 bits, or to a multiple of the
least positive double, with a half going to the even neighbour. What rounds to 2 ^ 1024 or more is
no finite double.
-/

namespace PodTunnels.Json

/-- A finite double without its sign: `mantissa × 2 ^ exponent`. -/
structure Double where
  mantissa : Nat
  exponent : Int
deriving DecidableEq, Repr, Inhabited

namespace Double

def zero : Double :=
  ⟨0, 0⟩

def precision : Nat := 53

/-- The power of two of the least positive double. -/
def leastExponent : Int := -1074

/-- The power of two at which the numbers beyond all doubles begin. -/
def limitExponent : Int := 1024

/-- A fraction as the nearest natural number, a half as the even neighbour. -/
def roundHalfEven (num den : Nat) : Nat :=
  let q := num / den
  let r := num % den
  if 2 * r < den ∨ (2 * r = den ∧ q % 2 = 0) then q else q + 1

def shift (num den : Nat) (power : Int) : Nat × Nat :=
  (num <<< power.toNat, den <<< (-power).toNat)

/-- The double nearest to a fraction. The difference of the binary sizes gives the power of two
that leaves one or two bits more than the precision in front of the point; the second step takes
back the bit that is too much. -/
def ofFraction? (num den : Nat) : Option Double :=
  let least := max leastExponent ((num.log2 : Int) - den.log2 - precision)
  let (n, d) := shift num den (-least)
  let exponent := if d <<< precision ≤ n then least + 1 else least
  let (n, d) := shift num den (-exponent)
  let mantissa := roundHalfEven n d
  if limitExponent ≤ mantissa.log2 + exponent then none else some ⟨mantissa, exponent⟩

/-- The double nearest to a product. -/
def mul? (a b : Double) : Option Double :=
  let (n, d) := shift (a.mantissa * b.mantissa) 1 (a.exponent + b.exponent)
  ofFraction? n d

/-- The double nearest to a quotient. -/
def div? (a b : Double) : Option Double :=
  let (n, d) := shift a.mantissa b.mantissa (a.exponent - b.exponent)
  ofFraction? n d

/-- The greatest power of ten that is read as a finite double. -/
def maxTen : Nat := 308

def ten? (power : Nat) : Option Double :=
  ofFraction? (Nat.pow 10 power) 1

/-- A natural number times a power of ten, in the steps in which a reader takes it: the number is
rounded first and then multiplied or divided by a rounded power of ten. A power below the least
one takes two divisions, and below twice that nothing is left of a number of 64 bits. -/
def ofScaled? (significand : Nat) (scale : Int) : Option Double := do
  let f ← ofFraction? significand 1
  if maxTen < scale then
    if significand = 0 then some zero else none
  else if 0 ≤ scale then mul? f (← ten? scale.toNat)
  else if -maxTen ≤ scale then div? f (← ten? (-scale).toNat)
  else if -(2 * maxTen) ≤ scale then
    div? (← div? f (← ten? maxTen)) (← ten? (-(scale + maxTen)).toNat)
  else some zero

end Double

end PodTunnels.Json
