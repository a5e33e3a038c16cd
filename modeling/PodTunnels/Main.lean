import PodTunnels.Host.Script
import PodTunnels.Program

/-!
# The command

The command reads what it needs of the machine, runs the program, and writes what came of it. It
starts no other program: how the runs of kubectl turn out is told on the standard input.
-/

namespace PodTunnels.Main

/-- Put the content of a file in its place, if the file can be read. -/
def fetchFile (files : Storage.FileSystem) (path : String) : IO Storage.FileSystem := do
  try
    let content ← IO.FS.readBinFile path
    return (files.write (.ofText path) content.toList).2
  catch _ => return files

/-- Put an empty file in the place of a program, if there is one that can be read. -/
def fetchProgram (files : Storage.FileSystem) (path : String) : IO Storage.FileSystem := do
  try
    let file ← IO.FS.Handle.mk path .read
    let _ ← file.read 1
    return (files.write (.ofText path) []).2
  catch _ => return files

/-- Write a file as it is on a host, with the directories on the way to it. -/
def storeFile (h : Host) (path : String) : IO Unit := do
  if let .ok content := h.files.read (.ofText path) then
    let directory := Storage.directoryText path
    unless directory.isEmpty do IO.FS.createDirAll directory
    IO.FS.writeBinFile path ⟨content.toArray⟩

end PodTunnels.Main

open PodTunnels Main

def main (arguments : List String) : IO UInt32 := do
  let home ← IO.getEnv "HOME"
  let searchPath ← IO.getEnv "PATH"
  let runs := ProgramRun.script (← (← IO.getStdin).readToEnd)
  let bare : Host := { home, searchPath, runs }
  let working := (Storage.Location.ofText (← IO.currentDir).toString).names.tail
  let found ← (Program.configFiles arguments bare).foldlM fetchFile { working }
  let configured := { bare with files := found }
  let files ← (Program.programFiles arguments configured).foldlM fetchProgram configured.files
  let (exit, after) := Program.run arguments { configured with files }
  for path in Program.changedFiles arguments configured after do storeFile after path
  IO.print exit.output
  IO.eprint exit.errorOutput
  return UInt32.ofNat exit.code
