import PodTunnels.OrderedMap
import PodTunnels.Storage.Location

/-!
# A file system

Directories, files and symbolic links, each at its place. A place is known by the names on the
straight way to it from the root. The root, the working directory and the directories between them
are always there. What a file holds is kept apart from the places, for one file can stand at
several.

A location is followed to its place name by name, and every place that is passed, if only to come
back from it, must be a directory. A name that leads to a symbolic link is followed to the target
of the link, and so is the last name of a location, unless the name itself is meant: a directory is
made, and a file is moved, by its name.

An operation that cannot be done says why in the words of the system and changes nothing; only the
making of several directories keeps what it has made before it fails. Moving a file takes the place
of what was there before, in one step.
-/

namespace PodTunnels.Storage

/-- A place: the names on the straight way to it from the root. -/
abbrev Place := List String

/-- What can be at a place. A file is known by a number, a link leads to a location that is
followed from the directory of the link. -/
inductive Node where
  | directory
  | file (id : Nat)
  | link (target : Location)
deriving DecidableEq, Repr

structure FileSystem where
  nodes : OrderedMap Place Node := {}
  contents : OrderedMap Nat (List UInt8) := {}
  working : Place := []

namespace FileSystem

/-- The system's word for a place with nothing at it. -/
def absent : String := "No such file or directory (os error 2)"

/-- The system's word for a place that is in use by the system itself. -/
def busy : String := "Device or resource busy (os error 16)"

/-- The system's word for a place that is taken. -/
def taken : String := "File exists (os error 17)"

/-- The system's word for a way through something that is no directory. -/
def noDirectory : String := "Not a directory (os error 20)"

/-- The system's word for a directory in the place of a file. -/
def isADirectory : String := "Is a directory (os error 21)"

/-- The system's word for a name or a location that is too long. -/
def tooLong : String := "File name too long (os error 36)"

/-- The system's word for a way through too many links. -/
def loops : String := "Too many levels of symbolic links (os error 40)"

/-- What is said about a location with a null character. -/
def hasNull : String := "file name contained an unexpected NUL byte"

/-- The number of bytes that a name may have. -/
def maxName : Nat := 255

/-- The number of bytes below which a location must stay. -/
def maxLocation : Nat := 4096

/-- The number of links that may be followed on the way to a place. -/
def maxLinks : Nat := 40

/-! ### Places and files -/

/-- Whether a place is the working directory or on the way to it. -/
def isGiven (fs : FileSystem) (p : Place) : Bool :=
  p.isPrefixOf fs.working

def node? (fs : FileSystem) (p : Place) : Option Node :=
  if fs.isGiven p then some .directory else fs.nodes.get? p

def put (fs : FileSystem) (p : Place) (node : Node) : FileSystem :=
  { fs with nodes := fs.nodes.insert p node }

def remove (fs : FileSystem) (p : Place) : FileSystem :=
  { fs with nodes := fs.nodes.erase p }

def content (fs : FileSystem) (id : Nat) : List UInt8 :=
  (fs.contents.get? id).getD []

/-- Let a file hold these bytes. -/
def fill (fs : FileSystem) (id : Nat) (bytes : List UInt8) : FileSystem :=
  { fs with contents := fs.contents.insert id bytes }

/-- Write bytes at the end of a file. -/
def append (fs : FileSystem) (id : Nat) (bytes : List UInt8) : FileSystem :=
  fs.fill id (fs.content id ++ bytes)

/-- A number above those of all files. -/
def fresh (fs : FileSystem) : Nat :=
  fs.nodes.values.foldl
    (fun n node =>
      match node with
      | .file id => max n (id + 1)
      | _ => n)
    0

def addFile (fs : FileSystem) (p : Place) (bytes : List UInt8) : FileSystem :=
  (fs.put p (.file fs.fresh)).fill fs.fresh bytes

/-! ### Following locations -/

/-- Why a location cannot be given to the system, whatever is there. -/
def refusal? (l : Location) : Option String :=
  if l.names.any (·.contains '\x00') then some hasNull
  else if maxLocation ≤ l.render.utf8ByteSize then some tooLong
  else none

/-- The place that a name leads to from a directory. -/
def enter (p : Place) (name : String) : Except String Place :=
  if name = Location.rootName then .ok []
  else if name = Location.hereName then .ok p
  else if name = Location.backName then .ok p.dropLast
  else if maxName < name.utf8ByteSize then .error tooLong
  else .ok (p ++ [name])

/-- Follow names from a place. At a link, `again` goes on with those of its target before the
others. -/
def followBy (fs : FileSystem) (again : Place → List String → Except String Place) :
    Place → List String → Except String Place
  | p, [] => .ok p
  | p, name :: names =>
    match fs.node? p with
    | some .directory =>
      match enter p name with
      | .ok q =>
        match fs.node? q with
        | some (.link target) => again p (target.path ++ names)
        | _ => followBy fs again q names
      | .error reason => .error reason
    | some _ => .error noDirectory
    | none => .error absent

/-- Follow names from a place, through a number of links at most. -/
def follow (fs : FileSystem) : Nat → Place → List String → Except String Place
  | 0 => fs.followBy fun _ _ => .error loops
  | n + 1 => fs.followBy (follow fs n)

/-- The place that a location leads to. Nothing need be there, but its directory must. -/
def place (fs : FileSystem) (l : Location) : Except String Place :=
  match refusal? l with
  | some reason => .error reason
  | none => fs.follow maxLinks fs.working l.names

/-- The place of the name that a location ends in, whether it is a link or not. -/
def entry (fs : FileSystem) (l : Location) : Except String Place :=
  match refusal? l, l.names.getLast? with
  | some reason, _ => .error reason
  | none, none => .error absent
  | none, some name =>
    match fs.follow maxLinks fs.working l.names.dropLast with
    | .error reason => .error reason
    | .ok p =>
      match fs.node? p with
      | some .directory => enter p name
      | some _ => .error noDirectory
      | none => .error absent

/-- What a location leads to. It is no file if the location ends in a slash. -/
def lookup (fs : FileSystem) (l : Location) : Except String Node :=
  if l.names = [] then .error absent
  else
    match fs.place l with
    | .error reason => .error reason
    | .ok p =>
      match fs.node? p with
      | none => .error absent
      | some node =>
        if l.endsInSlash ∧ node ≠ .directory then .error noDirectory else .ok node

def holds (fs : FileSystem) (l : Location) : Bool :=
  match fs.lookup l with
  | .ok _ => true
  | .error _ => false

def file (fs : FileSystem) (l : Location) : Except String Nat :=
  match fs.lookup l with
  | .ok (.file id) => .ok id
  | .ok _ => .error isADirectory
  | .error reason => .error reason

def isFile (fs : FileSystem) (l : Location) : Bool :=
  match fs.file l with
  | .ok _ => true
  | .error _ => false

def read (fs : FileSystem) (l : Location) : Except String (List UInt8) :=
  match fs.file l with
  | .ok id => .ok (fs.content id)
  | .error reason => .error reason

/-! ### Operations -/

def makeOne (fs : FileSystem) (l : Location) : Except String FileSystem :=
  match fs.entry l with
  | .error reason => .error reason
  | .ok p =>
    if fs.node? p = none then .ok (fs.put p .directory)
    else
      match fs.lookup l with
      | .ok .directory => .ok fs
      | _ => .error taken

/-- Make directories one after the other; what was made before a failure stays. -/
def makeEach (fs : FileSystem) : List Location → Except String Unit × FileSystem
  | [] => (.ok (), fs)
  | l :: ls =>
    match fs.makeOne l with
    | .ok fs => makeEach fs ls
    | .error reason => (.error reason, fs)

/-- What is wrong with a location from the beginning, if it is more than that something is missing
on the way to it. -/
def obstacle? (fs : FileSystem) (l : Location) : Option String :=
  match fs.entry l with
  | .error reason => if reason = absent then none else some reason
  | .ok _ => none

/-- Make a directory and those on the way to it. The whole location is tried first, so an obstacle
on the way is what a failure tells of. -/
def makeDirectory (fs : FileSystem) (l : Location) : Except String Unit × FileSystem :=
  match refusal? l with
  | some reason => (.error reason, fs)
  | none => (fs.makeEach l.ways).map (·.mapError fun reason => (fs.obstacle? l).getD reason) id

/-- Open a file to be written from its beginning: one that is there is emptied, and otherwise there
is a new one. -/
def createFile (fs : FileSystem) (l : Location) : Except String (Nat × FileSystem) :=
  if l.names = [] then .error absent
  else
    match fs.place l with
    | .error reason => .error reason
    | .ok p =>
      if l.endsInSlash then .error isADirectory
      else
        match fs.node? p with
        | none => .ok (fs.fresh, fs.addFile p [])
        | some (.file id) => .ok (id, fs.fill id [])
        | some _ => .error isADirectory

def endsInPoints (l : Location) : Bool :=
  l.names.getLast? = some Location.hereName ∨ l.names.getLast? = some Location.backName

/-- The place that a file can be moved to. A location that ends in a point or two is no such
place. -/
def target (fs : FileSystem) (l : Location) : Except String Place :=
  match fs.entry l with
  | .error reason => .error reason
  | .ok p =>
    if endsInPoints l then .error busy
    else if l.endsInSlash then .error noDirectory
    else if fs.node? p = some .directory then .error isADirectory
    else .ok p

/-- What is left when the node of a place is moved to another place. Nothing happens to a file that
stands at both of them. -/
def moved (fs : FileSystem) (p q : Place) (node : Node) : FileSystem :=
  match node with
  | .file _ => if fs.node? q = some node then fs else (fs.remove p).put q node
  | _ => (fs.remove p).put q node

def move (fs : FileSystem) (source destination : Location) : Except String FileSystem :=
  match fs.entry source, fs.target destination with
  | .ok p, .ok q =>
    match fs.node? p with
    | none => .error absent
    | some .directory => .error isADirectory
    | some node => .ok (fs.moved p q node)
  | .error reason, _ => .error reason
  | _, .error reason => .error reason

/-- Write a file, in the place of one that was there before, and make the directories on the way to
it. -/
def write (fs : FileSystem) (l : Location) (bytes : List UInt8) :
    Except String Unit × FileSystem :=
  match fs.makeDirectory (l.parent?.getD { names := [] }) with
  | (.error reason, fs) => (.error reason, fs)
  | (.ok (), fs) =>
    match fs.createFile l with
    | .ok (id, fs) => (.ok (), fs.append id bytes)
    | .error reason => (.error reason, fs)

def names (fs : FileSystem) (directory : Location) : List String :=
  match fs.place directory with
  | .ok p => fs.nodes.keys.filterMap fun q => if q.dropLast = p then q.getLast? else none
  | .error _ => []

end FileSystem

end PodTunnels.Storage
