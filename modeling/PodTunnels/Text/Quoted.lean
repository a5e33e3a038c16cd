import PodTunnels.Text.Hidden

/-!
# Quoted text

A message shows foreign text between quotation marks. The mark itself, the backslash and four
controls have short escapes; any other character that a reader could not see standing alone is
written by its code point in lower-case hexadecimal between braces. The apostrophe needs no escape.
-/

namespace PodTunnels.Text

/-- A code point in lower-case hexadecimal without leading zeros. -/
def hex (n : Nat) : String :=
  String.ofList (Nat.toDigits 16 n)

/-- One character of a quoted text. -/
def quoteChar (c : Char) : String :=
  if c = '"' then "\\\""
  else if c = '\\' then "\\\\"
  else if c = '\n' then "\\n"
  else if c = '\r' then "\\r"
  else if c = '\t' then "\\t"
  else if c = '\x00' then "\\0"
  else if isHidden c then "\\u\x7b" ++ hex c.toNat ++ "\x7d"
  else String.singleton c

/-- A text between quotation marks with its unseen characters escaped. -/
def quoted (s : String) : String :=
  "\"" ++ String.join (s.toList.map quoteChar) ++ "\""

end PodTunnels.Text
