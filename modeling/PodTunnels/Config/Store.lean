import PodTunnels.Config
import PodTunnels.Failure
import PodTunnels.Storage.FileSystem
import PodTunnels.Text.Utf8

/-!
# The configuration file

A configuration is kept in one file. Where there is none, the defaults are loaded. To save is to
write a temporary file beside the real one, and then to move it into place; so a save that fails on
the way leaves the real file to itself.

What may go wrong from outside is a parameter of saving: at which steps the system refuses, and how
many bytes it still wrote when it refuses to write. Bytes are handed over piece by piece, and
whether a piece could be written is asked when the next one is handed over. After the last piece
nobody asks: if that one is refused, the save goes on, moves into place what there is, and succeeds.
-/

namespace PodTunnels

open PodTunnels.Storage

/-- What keeps a step from being done: the system's word for it, and the bytes that a refused write
has written nevertheless. -/
structure Fault where
  detail : String
  written : Nat := 0
deriving DecidableEq, Repr

/-- The faults that the system has in store for the steps of a save. -/
abbrev Faults := ConfigStep → Option Fault

namespace Faults

/-- A system that refuses nothing by itself. -/
def none : Faults :=
  fun _ => .none

/-- The number of bytes that are handed over at once. -/
def pieceSize : Nat := 2 * 1024 * 1024

/-- What is written of some bytes. -/
def kept (faults : Faults) (bytes : List UInt8) : List UInt8 :=
  match faults .writeTemporary with
  | some fault => bytes.take fault.written
  | .none => bytes

/-- The refusal to write a number of bytes, if it is noticed: there is a piece behind the one that
was refused. -/
def noticed? (faults : Faults) (length : Nat) : Option Fault :=
  (faults .writeTemporary).filter fun fault => (fault.written / pieceSize + 1) * pieceSize < length

end Faults

/-- Work on the file system that a failure ends. -/
abbrev Saving := ExceptT Failure (StateM FileSystem)

/-- The place of the configuration file, as it was given. -/
structure ConfigStore where
  path : String
deriving DecidableEq, Repr

namespace ConfigStore

/-- The directory under the home directory that holds the configuration. -/
def directoryName : String := ".podfwd"

def underHome (home : String) : ConfigStore :=
  ⟨join (join home directoryName) "config.json"⟩

def location (s : ConfigStore) : Location :=
  .ofText s.path

def temporary (l : Location) : Location :=
  l.withExtension "json.tmp"

def isThere (s : ConfigStore) (fs : FileSystem) : Bool :=
  fs.holds s.location

def load (s : ConfigStore) (fs : FileSystem) : Except Failure Config :=
  if s.isThere fs then
    match fs.read s.location with
    | .error detail => .error (.config .read detail)
    | .ok bytes =>
      match Text.Utf8.decode? bytes with
      | none => .error (.config .read "stream did not contain valid UTF-8")
      | some text =>
        match Config.parse? text with
        | some c => .ok c
        | none => .error (.config .parse "unusable configuration")
  else .ok {}

/-- Do one step of a save, which may leave something behind even if it fails. -/
def attempt {α : Type} (faults : Faults) (step : ConfigStep)
    (act : FileSystem → Except String α × FileSystem) : Saving α := do
  match faults step with
  | some fault => throw (.config step fault.detail)
  | none =>
    let (result, fs) := act (← get)
    set fs
    match result with
    | .ok a => pure a
    | .error detail => throw (.config step detail)

/-- An operation that leaves nothing behind when it fails. -/
def whole {α : Type} (act : FileSystem → Except String (α × FileSystem)) (fs : FileSystem) :
    Except String α × FileSystem :=
  match act fs with
  | .ok (a, fs) => (.ok a, fs)
  | .error detail => (.error detail, fs)

def write (faults : Faults) (file : Nat) (bytes : List UInt8) : Saving Unit := do
  modify fun fs => fs.append file (faults.kept bytes)
  match faults.noticed? bytes.length with
  | some fault => throw (.config .writeTemporary fault.detail)
  | none => pure ()

def saving (s : ConfigStore) (faults : Faults) (c : Config) : Saving Unit := do
  match s.location.parent? with
  | some directory => attempt faults .createDirectory fun fs => fs.makeDirectory directory
  | none => pure ()
  let temporary := temporary s.location
  let file ← attempt faults .createTemporary (whole fun fs => fs.createFile temporary)
  write faults file (Text.Utf8.encode c.render)
  attempt faults .syncTemporary (whole fun fs => .ok ((), fs))
  attempt faults .rename (whole fun fs => (fs.move temporary s.location).map fun fs => ((), fs))

def save (s : ConfigStore) (faults : Faults) (c : Config) (fs : FileSystem) :
    Except Failure Unit × FileSystem :=
  (s.saving faults c).run fs

end ConfigStore

end PodTunnels
