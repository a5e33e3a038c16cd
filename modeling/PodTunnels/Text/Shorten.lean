/-!
# Texts in a given width

A text too long for its place keeps its beginning, with an ellipsis for the rest. A short one is
filled up with spaces. Widths count characters.
-/

namespace PodTunnels.Text

/-- A text of at most `width` characters. -/
def shorten (width : Nat) (s : String) : String :=
  if s.length ≤ width then s else String.ofList (s.toList.take (width - 1)) ++ "…"

/-- A text filled up with spaces to a width, never cut. -/
def padRight (width : Nat) (s : String) : String :=
  s ++ String.ofList (List.replicate (width - s.length) ' ')

end PodTunnels.Text
