import PodTunnels.Text.Split

/-!
# Locations

A location is what a text says about where a file is: the names between its slashes, and whether
it ends in a slash. A text that begins with a slash starts at the root, which is kept as a first
name of its own, any other at the working directory. Empty names say nothing and are left out. A
single point leads nowhere, two points lead back, and whether they can be followed is for the file
system to say; so they stay in the location.

The file name, the directory and the extension of a location are read off the names alone. Single
points do not count for them.
-/

namespace PodTunnels.Storage

open PodTunnels.Text

/-- Where a file is, as a text says it. -/
structure Location where
  names : List String
  endsInSlash : Bool := false
deriving DecidableEq, Repr

namespace Location

/-- The name that stands for the root. -/
def rootName : String := "/"

/-- The name that leads nowhere. -/
def hereName : String := "."

/-- The name that leads back. -/
def backName : String := ".."

def ofText (text : String) : Location :=
  let names := (splitAll '/' text).filter (· ≠ "")
  { names := if text.startsWith "/" then rootName :: names else names
    endsInSlash := text.endsWith "/" }

def render (l : Location) : String :=
  let names := match l.names with
    | name :: rest => if name = rootName then "" :: rest else name :: rest
    | [] => []
  "/".intercalate names ++ (if l.endsInSlash then "/" else "")

/-- The names to follow from a directory. A slash at the end asks for a directory, as a point
does. -/
def path (l : Location) : List String :=
  if l.endsInSlash then l.names ++ [hereName] else l.names

/-- The names that lead somewhere. -/
def steps (l : Location) : List String :=
  l.names.filter (· ≠ hereName)

/-- The directory that a location is in; none for the empty location and the root. -/
def parent? (l : Location) : Option Location :=
  if l.names = [] ∨ l.steps = [rootName] then none else some { names := l.steps.dropLast }

/-- The locations that one passes on the way to a location, and the location itself. -/
def ways (l : Location) : List Location :=
  if l.names = [] then []
  else ((List.range l.steps.length).tail.map fun n => { names := l.steps.take n }) ++ [l]

/-- The last name, if it names a file. -/
def fileName? (l : Location) : Option String :=
  l.steps.getLast?.filter fun name => name ≠ rootName ∧ name ≠ backName

/-- A file name without its extension: what stands before its last point. A point at the very
beginning begins no extension. -/
def stem (name : String) : String :=
  match (name.toList.reverse.span (· ≠ '.')) with
  | (_, '.' :: first :: rest) => String.ofList (first :: rest).reverse
  | _ => name

/-- The location beside another whose file name has this extension in the stead of its own. A
location without a file name stays as it is. -/
def withExtension (l : Location) (extension : String) : Location :=
  match l.fileName? with
  | some name => { names := l.steps.dropLast ++ [stem name ++ "." ++ extension] }
  | none => l

end Location

/-- A text for the place of a name inside a directory. -/
def join (directory name : String) : String :=
  if directory.isEmpty then name
  else if directory.endsWith "/" then directory ++ name
  else directory ++ "/" ++ name

/-- A text for the directory of a place: what stands before the last slash. -/
def directoryText (text : String) : String :=
  String.ofList (text.toList.reverse.dropWhile (· ≠ '/')).tail.reverse

end PodTunnels.Storage
