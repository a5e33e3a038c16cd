import PodTunnels.Json.Basic
import PodTunnels.Text.Quoted

/-!
# JSON text of a value

Two layouts: the compact one without blanks, and the indented one with two spaces a level, one
item or member a line, and nothing between the brackets of an empty array or object. Strings are
escaped only where JSON demands it: quotation mark, backslash and the characters below the space.
-/

namespace PodTunnels.Json

def escapeChar (c : Char) : String :=
  if c = '"' then "\\\""
  else if c = '\\' then "\\\\"
  else if c = '\x08' then "\\b"
  else if c = '\x0c' then "\\f"
  else if c = '\n' then "\\n"
  else if c = '\r' then "\\r"
  else if c = '\t' then "\\t"
  else if c.toNat < 0x10 then "\\u000" ++ Text.hex c.toNat
  else if c.toNat < 0x20 then "\\u00" ++ Text.hex c.toNat
  else String.singleton c

def renderString (s : String) : String :=
  "\"" ++ String.join (s.toList.map escapeChar) ++ "\""

mutual

def compact : Json → String
  | .null => "null"
  | .bool b => if b then "true" else "false"
  | .number n => n.render
  | .string s => renderString s
  | .array items => "[" ++ compactItems items ++ "]"
  | .object members => "\x7b" ++ compactMembers members ++ "\x7d"

def compactItems : List Json → String
  | [] => ""
  | [v] => compact v
  | v :: vs => compact v ++ "," ++ compactItems vs

def compactMembers : List (String × Json) → String
  | [] => ""
  | [(name, v)] => renderString name ++ ":" ++ compact v
  | (name, v) :: ms => renderString name ++ ":" ++ compact v ++ "," ++ compactMembers ms

end

/-- The start of a line at a level of nesting. -/
def newLine (level : Nat) : String :=
  "\n" ++ String.ofList (List.replicate (2 * level) ' ')

mutual

/-- The indented text of a value at a level of nesting. -/
def indented (level : Nat) : Json → String
  | .null => "null"
  | .bool b => if b then "true" else "false"
  | .number n => n.render
  | .string s => renderString s
  | .array [] => "[]"
  | .array (v :: vs) =>
    "[" ++ newLine (level + 1) ++ indented (level + 1) v ++ indentedItems (level + 1) vs ++
      newLine level ++ "]"
  | .object [] => "\x7b\x7d"
  | .object ((name, v) :: ms) =>
    "\x7b" ++ newLine (level + 1) ++ renderString name ++ ": " ++ indented (level + 1) v ++
      indentedMembers (level + 1) ms ++ newLine level ++ "\x7d"

/-- The indented texts of the items after the first, each after a comma. -/
def indentedItems (level : Nat) : List Json → String
  | [] => ""
  | v :: vs => "," ++ newLine level ++ indented level v ++ indentedItems level vs

/-- The indented texts of the members after the first, each after a comma. -/
def indentedMembers (level : Nat) : List (String × Json) → String
  | [] => ""
  | (name, v) :: ms =>
    "," ++ newLine level ++ renderString name ++ ": " ++ indented level v ++
      indentedMembers level ms

end

def pretty (v : Json) : String :=
  indented 0 v

end PodTunnels.Json
