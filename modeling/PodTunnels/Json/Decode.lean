import PodTunnels.Json.Parser
import PodTunnels.OrderedMap

/-!
# Reading typed data from documents

A reader turns a document into a value of a type, or refuses it. A record is read from an object
by the names of its fields or from an array by their order. Members of other names are not looked
at; a field given twice is refused; an array may be shorter than the record, which leaves its last
fields out, but not longer.

What a missing field means is said where the field is read: it is refused, or `none`, or a default.
An optional field may also be given as `null`; a default does not stand in for `null`.
-/

namespace PodTunnels.Json

/-- A reader of values of a type. -/
abbrev Reader (α : Type) := Document → Option α

namespace Reader

def text : Reader String
  | .string s => s
  | _ => none

def natBelow (bound : Nat) : Reader Nat
  | .number n => n.toNat?.filter (· < bound)
  | _ => none

def list {α : Type} (item : Reader α) : Reader (List α)
  | .array items => items.mapM item
  | _ => none

/-- A value of any shape, `room` levels of nesting below the bound. -/
def json (room : Nat) : Reader Json :=
  fun d => d.value? room

/-- A map from texts to texts; the last of equal keys stays. -/
def textMap : Reader (OrderedMap String String)
  | .object members => do
    let entries ← members.mapM fun m => do
      let name ← m.1
      let value ← text m.2
      return (name, value)
    return OrderedMap.ofList entries
  | _ => none

/-- A field that must be there. -/
def required {α : Type} (reader : Reader α) (field : Option Document) : Option α :=
  field.bind reader

/-- A field that may be missing or null. -/
def optional {α : Type} (reader : Reader α) : Option Document → Option (Option α)
  | none => some none
  | some .null => some none
  | some d => (reader d).map some

/-- A field that has a default when it is missing. -/
def orDefault {α : Type} (default : α) (reader : Reader α) : Option Document → Option α
  | none => some default
  | some d => reader d

end Reader

/-- The fields of a record: what each known name was given as. -/
abbrev Fields := String → Option Document

/-- Take the known members of an object, refusing a second one of a name and a name that is no
text. -/
def takeFields (names : List String) (seen : List (String × Document)) :
    List (Option String × Document) → Option (List (String × Document))
  | [] => some seen
  | (none, _) :: _ => none
  | (some name, d) :: ms =>
    if names.contains name then
      if seen.any (fun f => f.1 == name) then none
      else takeFields names (seen ++ [(name, d)]) ms
    else takeFields names seen ms

/-- The fields of a record with the given field names. -/
def Document.fields? (names : List String) : Document → Option Fields
  | .object members => do
    let found ← takeFields names [] members
    return fun name => (found.find? fun f => f.1 == name).map Prod.snd
  | .array items =>
    if items.length ≤ names.length then
      some fun name => ((names.zip items).find? fun f => f.1 == name).map Prod.snd
    else none
  | _ => none

end PodTunnels.Json
