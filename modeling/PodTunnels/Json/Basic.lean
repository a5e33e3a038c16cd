import PodTunnels.Json.Number

/-!
# JSON values and JSON documents

A *value* is what a JSON text means: the members of an object have distinct names, every string is
a text, every number is a 64-bit integer or a double. A *document* is what a JSON text says,
before any of that is checked: members may repeat, a string may hold half of a surrogate pair, a
number may be beyond all range, and nesting has no bound. A reader of a document that skips a
member never asks whether the skipped part has a meaning; a reader of the whole asks with
`Document.value?`.
-/

namespace PodTunnels

inductive Json where
  | null
  | bool (b : Bool)
  | number (n : Json.Number)
  | string (s : String)
  | array (items : List Json)
  | object (members : List (String × Json))
deriving Inhabited

namespace Json

/-- What a JSON text says. A string is `none` when it holds half of a surrogate pair. -/
inductive Document where
  | null
  | bool (b : Bool)
  | number (n : Number)
  | string (s : Option String)
  | array (items : List Document)
  | object (members : List (Option String × Document))
deriving Inhabited

/-- The number of arrays and objects that may enclose one another in a value. -/
def maxDepth : Nat := 127

/-- Put a member into a list of members, in the place of one with the same name. -/
def setMember (name : String) (v : Json) : List (String × Json) → List (String × Json)
  | [] => [(name, v)]
  | m :: ms => if m.1 = name then (name, v) :: ms else m :: setMember name v ms

namespace Document

mutual

/-- The value of a document, when `room` more levels of nesting are allowed. -/
def value? (room : Nat) : Document → Option Json
  | .null => some .null
  | .bool b => some (.bool b)
  | .number n => n.value?.map .number
  | .string s => s.map .string
  | .array items =>
    match room with
    | 0 => none
    | room + 1 => (values? room items).map .array
  | .object members =>
    match room with
    | 0 => none
    | room + 1 => (members? room [] members).map .object

def values? (room : Nat) : List Document → Option (List Json)
  | [] => some []
  | d :: ds => do
    let v ← value? room d
    let vs ← values? room ds
    return v :: vs

/-- The members of an object put into those already read; the last of a name wins. -/
def members? (room : Nat) (seen : List (String × Json)) :
    List (Option String × Document) → Option (List (String × Json))
  | [] => some seen
  | (name, d) :: ms => do
    let name ← name
    let v ← value? room d
    members? room (setMember name v seen) ms

end

end Document

mutual

/-- A value as a document that says just that. -/
def document : Json → Document
  | .null => .null
  | .bool b => .bool b
  | .number n => .number n
  | .string s => .string (some s)
  | .array items => .array (documents items)
  | .object members => .object (memberDocuments members)

def documents : List Json → List Document
  | [] => []
  | v :: vs => document v :: documents vs

def memberDocuments : List (String × Json) → List (Option String × Document)
  | [] => []
  | (name, v) :: ms => (some name, document v) :: memberDocuments ms

end

def member? (v : Json) (name : String) : Option Json :=
  match v with
  | .object members => (members.find? fun m => m.1 == name).map Prod.snd
  | _ => none

end Json

end PodTunnels
