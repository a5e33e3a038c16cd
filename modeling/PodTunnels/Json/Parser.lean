import PodTunnels.Json.Basic
import PodTunnels.Json.Lexer

/-!
# Documents from tokens

The arrays and objects that are open form a stack, innermost first. Each token either completes a
part, which is then put into the innermost open one, or opens or closes one. A text is a document
when its tokens lead from waiting for a value to a finished one with nothing open.
-/

namespace PodTunnels.Json

namespace Parser

/-- An array or object that is not closed yet; its parts stand in reverse. A `member` object
waits for the value of the name it holds. -/
inductive Frame where
  | array (items : List Document)
  | object (members : List (Option String × Document))
  | member (members : List (Option String × Document)) (name : Option String)

/-- What may come next. -/
inductive State where
  /-- A value. -/
  | value (stack : List Frame)
  /-- The first item of an array, or its end. -/
  | firstItem (stack : List Frame)
  /-- The first name of an object, or its end. -/
  | firstName (stack : List Frame)
  /-- A further name of an object. -/
  | name (stack : List Frame)
  /-- The colon after a name. -/
  | colon (stack : List Frame)
  /-- A comma, or the end of what is open. -/
  | after (stack : List Frame)
  /-- Nothing. -/
  | done (d : Document)

/-- Put a finished part into the innermost open array or object. -/
def complete (d : Document) : List Frame → Option State
  | [] => some (.done d)
  | .array items :: stack => some (.after (.array (d :: items) :: stack))
  | .member members name :: stack => some (.after (.object ((name, d) :: members) :: stack))
  | .object _ :: _ => none

/-- Close the innermost open array or object. -/
def close (c : Char) : List Frame → Option State
  | .array items :: stack => if c = ']' then complete (.array items.reverse) stack else none
  | .object members :: stack => if c = '}' then complete (.object members.reverse) stack else none
  | _ => none

/-- A token where a value is due. -/
def beginValue (t : Token) (stack : List Frame) : Option State :=
  match t with
  | .mark c =>
    if c = '[' then some (.firstItem (.array [] :: stack))
    else if c = '{' then some (.firstName (.object [] :: stack))
    else none
  | .null => complete .null stack
  | .bool b => complete (.bool b) stack
  | .number n => complete (.number n) stack
  | .string s => complete (.string s) stack

/-- A token where a name is due. -/
def beginName (t : Token) : List Frame → Option State
  | .object members :: stack =>
    match t with
    | .string s => some (.colon (.member members s :: stack))
    | _ => none
  | _ => none

/-- A token after a finished part. -/
def continueFrame (t : Token) (stack : List Frame) : Option State :=
  match t with
  | .mark c =>
    if c = ',' then
      match stack with
      | .array items :: rest => some (.value (.array items :: rest))
      | .object members :: rest => some (.name (.object members :: rest))
      | _ => none
    else close c stack
  | _ => none

def step (state : State) (t : Token) : Option State :=
  match state with
  | .value stack => beginValue t stack
  | .firstItem stack =>
    match t with
    | .mark ']' => close ']' stack
    | t => beginValue t stack
  | .firstName stack =>
    match t with
    | .mark '}' => close '}' stack
    | t => beginName t stack
  | .name stack => beginName t stack
  | .colon stack =>
    match t with
    | .mark ':' => some (.value stack)
    | _ => none
  | .after stack => continueFrame t stack
  | .done _ => none

end Parser

/-- The document that a JSON text says; `none` when the text breaks the grammar. -/
def Document.parse? (text : String) : Option Document := do
  let tokens ← tokens? text
  match ← tokens.foldlM Parser.step (.value []) with
  | .done d => some d
  | _ => none

def parse? (text : String) : Option Json := do
  let d ← Document.parse? text
  d.value? maxDepth

end PodTunnels.Json
