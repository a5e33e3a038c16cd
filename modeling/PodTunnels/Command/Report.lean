import PodTunnels.Failure
import PodTunnels.Selection

/-!
# What a command reports

A command prints lines, some of them on the error output, and may fail. Beside the failures of the
library a command has a few of its own, which have a wording and nothing else. A forward in the
foreground fails with the last failure it was told of, as a mere text: it has been shown before.
-/

namespace PodTunnels

inductive CommandFailure where
  | failure (failure : Failure)
  | undeclared (port : UInt16)
  | noMappings
  | configExists (path : String)
  /-- The last failure that the interface of a forward was told of. -/
  | told (failure : Failure)
deriving DecidableEq, Repr

namespace CommandFailure

/-- The failure of a command whose mappings make no selection. -/
def ofMapping : MappingFault → CommandFailure
  | .unreadable e => failure e
  | .undeclared port => undeclared port
  | .noMappings => noMappings

def message : CommandFailure → String
  | failure e => e.message
  | undeclared port => (MappingFault.undeclared port).message
  | noMappings => MappingFault.noMappings.message
  | configExists path => path ++ " already exists (use --force to overwrite)"
  | told e => e.message

def source? : CommandFailure → Option String
  | failure e => e.source?
  | _ => none

end CommandFailure

/-- What a command printed, and how it failed if it did. -/
structure Report where
  output : String := ""
  errorOutput : String := ""
  failure : Option CommandFailure := none
deriving DecidableEq, Repr

namespace Report

def printed (lines : List String) : String :=
  String.join (lines.map fun line => line ++ "\n")

/-- The report of a command that prints lines. -/
def lines (ls : List String) : Report :=
  { output := printed ls }

def failed (e : CommandFailure) : Report :=
  { failure := some e }

end Report

end PodTunnels
