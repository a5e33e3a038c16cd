import PodTunnels.Host
import PodTunnels.Json.Decode
import PodTunnels.Text.Lines
import PodTunnels.Text.Utf8

/-!
# Runs that are told beforehand

How the runs of a program turn out can be told in a text of lines, each a record in JSON. What a
record leaves out is as for a run that writes nothing and succeeds at once; a line that is no such
record tells nothing.
-/

namespace PodTunnels

open PodTunnels.Json

namespace ProgramRun

def flag : Reader Bool
  | .bool b => some b
  | _ => none

def bytes : Reader (List UInt8) :=
  fun d => (Reader.text d).map Text.Utf8.encode

def reader : Reader ProgramRun := fun d => do
  let fields ← d.fields? ["output", "errorOutput", "exitCode", "delay", "interrupts", "hangs"]
  let output ← Reader.orDefault [] bytes (fields "output")
  let errorOutput ← Reader.orDefault [] bytes (fields "errorOutput")
  let exitCode ← Reader.orDefault 0 (Reader.natBelow UInt8.size) (fields "exitCode")
  let delay ← Reader.orDefault 0 (Reader.natBelow UInt64.size) (fields "delay")
  let interrupts ← Reader.orDefault false flag (fields "interrupts")
  let hangs ← Reader.orDefault false flag (fields "hangs")
  return { output, errorOutput, exitCode, delay, interrupts, hangs }

def script (text : String) : List ProgramRun :=
  (Text.lines text).filterMap fun line => (Document.parse? line).bind reader

end ProgramRun

end PodTunnels
