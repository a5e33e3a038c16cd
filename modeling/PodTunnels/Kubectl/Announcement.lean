import PodTunnels.Port
import PodTunnels.Text.Digit

/-!
# The announcement of a bound port

Once kubectl listens on a local port it prints a line `Forwarding from A:P -> R`, where `A` is a
run of characters that are not blank and `P` and `R` start with digits of any script. Everything
after the first digit of `R` is ignored. As no blank may stand in `A:P`, the address and the port
are cut at the last colon before the arrow.

A forward is ready once every local port it was asked for has been announced. Other lines do not
matter, nor does the order of the ports.
-/

namespace PodTunnels.Kubectl

open PodTunnels.Text

/-- The digits at the end of a text `A:P`. -/
def boundPort? (bound : List Char) : Option (List Char) :=
  let port := (bound.reverse.takeWhile isDecimalDigit).reverse
  match bound.reverse.drop port.length with
  | ':' :: _ :: _ => if port.isEmpty then none else some port
  | _ => none

/-- The text `P` of an announcement. -/
def announcedText? (line : List Char) : Option (List Char) := do
  let rest ← dropLead "Forwarding from ".toList line
  let bound := rest.takeWhile fun c => !isBlank c
  let far ← dropLead " -> ".toList (rest.drop bound.length)
  if far.head?.any isDecimalDigit then boundPort? bound else none

def announcedPort? (line : String) : Option UInt16 :=
  (announcedText? line.toList).bind portNumber?

/-- The ports that a line leaves to be announced. -/
def stillPending (pending : List UInt16) (line : String) : List UInt16 :=
  match announcedPort? line with
  | some port => pending.filter fun p => p != port
  | none => pending

end PodTunnels.Kubectl
