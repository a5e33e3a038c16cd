/-!
# Cutting text apart

Three ways to look inside a text: cut it once at the first separator, cut it at every separator,
or ask whether one text occurs in another. A separator belongs to no part, so the parts joined by
the separator give the text back, and a text without the separator is its own only part.
-/

namespace PodTunnels.Text

/-- The parts before and after the first `sep`; `none` when there is no `sep`. -/
def cutFirst (sep : Char) : List Char → Option (List Char × List Char)
  | [] => none
  | c :: cs =>
    if c = sep then some ([], cs)
    else (cutFirst sep cs).map fun parts => (c :: parts.1, parts.2)

/-- Every part between separators, in order; one more than there are separators. -/
def cutAll (sep : Char) : List Char → List (List Char)
  | [] => [[]]
  | c :: cs =>
    if c = sep then [] :: cutAll sep cs
    else
      match cutAll sep cs with
      | [] => [[c]]
      | part :: parts => (c :: part) :: parts

/-- Whether `needle` stands somewhere in a list of characters. -/
def occursIn (needle : List Char) : List Char → Bool
  | [] => needle.isEmpty
  | c :: cs => needle.isPrefixOf (c :: cs) || occursIn needle cs

/-- The two halves of a text around the first `sep`. -/
def splitFirst (sep : Char) (s : String) : Option (String × String) :=
  (cutFirst sep s.toList).map fun parts => (String.ofList parts.1, String.ofList parts.2)

/-- The parts of a text between separators. -/
def splitAll (sep : Char) (s : String) : List String :=
  (cutAll sep s.toList).map String.ofList

/-- Whether `needle` stands somewhere in `s`. -/
def mentions (s needle : String) : Bool :=
  occursIn needle.toList s.toList

/-- What follows `lead` in a list of characters that starts with it. -/
def dropLead (lead cs : List Char) : Option (List Char) :=
  if lead.isPrefixOf cs then some (cs.drop lead.length) else none

end PodTunnels.Text
