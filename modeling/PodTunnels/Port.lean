import PodTunnels.Failure
import PodTunnels.Text.Blank
import PodTunnels.Text.Digit
import PodTunnels.Text.Split

/-!
# Port numbers from text

A port is written in ASCII digits after an optional plus sign, with any number of leading zeros;
it is at least 1 and fits 16 bits. Blanks around it do not count. A fault quotes the text as it was
handed over: the parts of a mapping with their blanks, the items of a list without.
-/

namespace PodTunnels

open PodTunnels.Text

/-- The number of 16 bits that a list of characters writes, zero included. -/
def portNumber? (cs : List Char) : Option UInt16 :=
  let digits :=
    match cs with
    | '+' :: rest => rest
    | _ => cs
  if digits.isEmpty || !digits.all isAsciiDigit then none
  else
    let n := digitsValue digits
    if n < UInt16.size then some (UInt16.ofNat n) else none

def parsePort (s : String) : Except Failure UInt16 :=
  match portNumber? (trimChars s.toList) with
  | some p => if p = 0 then .error (.invalidPorts (.notAPort s)) else .ok p
  | none => .error (.invalidPorts (.notAPort s))

/-- The ports of a list separated by commas; blank items do not count. -/
def parseLocalPorts (s : String) : Except Failure (List UInt16) :=
  (((splitAll ',' s).map trim).filter fun item => !item.isEmpty).mapM parsePort

/-- The two ports of `local:remote`, or of a single port that stands for both. -/
def parsePortMapping (s : String) : Except Failure (UInt16 × UInt16) :=
  match splitFirst ':' s with
  | some (near, far) => do
    let near ← parsePort near
    let far ← parsePort far
    return (near, far)
  | none => do
    let port ← parsePort s
    return (port, port)

end PodTunnels
