import PodTunnels.Storage.FileSystem

/-!
# The host

What the program finds on the machine it runs on: the files, the home directory, the search path,
and how the runs of another program will turn out. Runs are used up in order; a run that nothing
was said about writes nothing and succeeds. The arguments of every run are kept.
-/

namespace PodTunnels

open PodTunnels.Storage

/-- How a run of a program turns out. It writes its output at once, lets some milliseconds pass,
may interrupt the caller, and then either stays until it is terminated or exits. -/
structure ProgramRun where
  output : List UInt8 := []
  errorOutput : List UInt8 := []
  exitCode : Nat := 0
  delay : Nat := 0
  interrupts : Bool := false
  hangs : Bool := false
deriving DecidableEq, Repr, Inhabited

/-- What the program finds on its machine. -/
structure Host where
  files : FileSystem := {}
  home : Option String := none
  searchPath : Option String := none
  runs : List ProgramRun := []
  calls : List (List String) := []

namespace Host

/-- What is said about a text with a null character, which no program can be given. -/
def nullFound : String :=
  "nul byte found in provided data"

/-- The system's word for a directory in the place of a program. -/
def denied : String :=
  "Permission denied (os error 13)"

/-- Where the system looks for programs when there is no search path. -/
def defaultSearchPath : String :=
  "/bin:/usr/bin"

/-- The places of a name in the directories of a search path. -/
def alongPath (path name : String) : List String :=
  (Text.splitAll ':' path).map fun directory => join directory name

/-- Whether the program at a place can be started, or why not. -/
def runnable (h : Host) (place : String) : Except String Unit :=
  match h.files.lookup (.ofText place) with
  | .ok .directory => .error denied
  | .ok _ => .ok ()
  | .error reason => .error reason

/-- Try the places of a program in turn. One that is not there is passed over, and so is one that is
denied, but that is what is said in the end. -/
def runnableOf (h : Host) (reason : String) : List String → Except String Unit
  | [] => .error reason
  | place :: places =>
    match h.runnable place with
    | .ok () => .ok ()
    | .error why =>
      if why = denied then runnableOf h denied places
      else if why = FileSystem.absent ∨ why = FileSystem.noDirectory then runnableOf h reason places
      else .error why

/-- Whether a program can be started, or why not. A text with a slash says where the program is; any
other is a name, to be looked for along the search path. -/
def findProgram (h : Host) (program : String) : Except String Unit :=
  if program.isEmpty then .error FileSystem.absent
  else if program.contains '/' then h.runnable program
  else
    h.runnableOf FileSystem.absent (alongPath (h.searchPath.getD defaultSearchPath) program)

/-- Start a program with arguments. It fails when a text has a null character, and with the
system's word when there is no such program. -/
def start (h : Host) (program : String) (arguments : List String) :
    Except String ProgramRun × Host :=
  if (program :: arguments).any (·.contains '\x00') then (.error nullFound, h)
  else
    match h.findProgram program with
    | .ok () =>
      (.ok (h.runs.headD {}), { h with runs := h.runs.tail, calls := h.calls ++ [arguments] })
    | .error reason => (.error reason, h)

/-- The places of a name along the search path. -/
def candidates (h : Host) (name : String) : List String :=
  match h.searchPath with
  | some path => alongPath path name
  | none => []

/-- The first place of a name along the search path that holds a file. -/
def search (h : Host) (name : String) : Option String :=
  (h.candidates name).find? fun candidate => h.files.isFile (.ofText candidate)

/-- The first of several places that holds anything. -/
def firstHeld (h : Host) (places : List String) : Option String :=
  places.find? fun place => h.files.holds (.ofText place)

end Host

end PodTunnels
