import PodTunnels.Command.Configuration
import PodTunnels.Command.Forward
import PodTunnels.Command.Pods
import PodTunnels.CommandLine

/-!
# The program

A run of the program reads its arguments, loads the configuration, and does what the command says.
Whatever the command is, a configuration that cannot be loaded ends the run. The namespace of the
command line goes before that of the configuration.

A run that fails says why on its error output, and below that what the failure comes from if it
wraps another one.
-/

namespace PodTunnels

open PodTunnels.CommandLine

/-- How a run of the program ended. -/
structure Exit where
  output : String := ""
  errorOutput : String := ""
  code : Nat := 0
deriving DecidableEq, Repr

namespace Program

def version : String := "0.1.0"

def usage : List String :=
  ["Manage Kubernetes port-forwards",
    "",
    "Usage: podfwd [OPTIONS] [COMMAND]",
    "",
    "Commands:",
    "  pods                          List pods and their declared ports",
    "  forward <TARGET> <PORTS>...   Forward local ports to a pod until interrupted",
    "  config [show | init]          Show or initialize configuration",
    "  help                          Print this message",
    "",
    "Options:",
    "  -n, --namespace <NAMESPACE>   Namespace to work in",
    "      --config <CONFIG>         Path to the configuration file",
    "      --json                    Output in JSON format",
    "      --no-tui                  Disable interactive mode",
    "  -v, --verbose                 Enable debug logging",
    "  -h, --help                    Print help",
    "  -V, --version                 Print version",
    "",
    "Options of forward:",
    "  -c, --container <CONTAINER>   Container owning the remote ports",
    "      --address <ADDRESS>       Local address to listen on",
    "",
    "Options of config init:",
    "  -f, --force                   Overwrite an existing file"]

/-- The end of a run whose arguments leave nothing to do. -/
def halt : Halt → Exit
  | .misused => { errorOutput := Report.printed usage, code := 2 }
  | .help => { output := Report.printed usage }
  | .version level => { output := Report.printed [level.name ++ " " ++ version] }

def complaint (e : CommandFailure) : List String :=
  ("Error: " ++ e.message) ::
    match e.source? with
    | some source => ["", "Caused by:", "    " ++ source]
    | none => []

/-- The code of a failure. A number of seconds that is beyond counting is no ordinary one. -/
def failureCode : CommandFailure → Nat
  | .failure (.kubectl .deadlineOverflow) => 101
  | _ => 1

/-- The end of a run that did what a command says. -/
def exitOf (r : Report) : Exit :=
  match r.failure with
  | none => { output := r.output, errorOutput := r.errorOutput }
  | some e =>
    { output := r.output
      errorOutput := r.errorOutput ++ Report.printed (complaint e)
      code := failureCode e }

/-- The store that a command line names, or the one under the home directory. -/
def openStore (h : Host) (configFile : Option String) : Except Failure ConfigStore :=
  match configFile, h.home with
  | some path, _ => .ok ⟨path⟩
  | none, some home => .ok (.underHome home)
  | none, none => .error (.config .locateHome "")

/-- Do what a command says, with a configuration that was loaded. -/
def obey (i : Invocation) (store : ConfigStore) (config : Config) (h : Host) : Report × Host :=
  let ns := i.ns.getD config.ns
  match i.verb with
  | none | some .pods => Command.pods config ns i.json h
  | some (.forward target mappings container address) =>
    Command.forward config ns target mappings container address h
  | some .showConfig => (Command.showConfig store config i.json h.files, h)
  | some (.initConfig force) =>
    let (report, files) := Command.initConfig store force h.files
    (report, { h with files })

def execute (i : Invocation) (h : Host) : Report × Host :=
  let loaded := do
    let store ← openStore h i.configFile
    return (store, ← store.load h.files)
  match loaded with
  | .ok (store, config) => obey i store config h
  | .error e => (.failed (.failure e), h)

/-- The configuration file that arguments lead to, if they lead to one. -/
def configFiles (arguments : List String) (h : Host) : List String :=
  match parse arguments with
  | .ok i => ((openStore h i.configFile).toOption.map ConfigStore.path).toList
  | .error _ => []

/-- The places where kubectl is looked for, given a host with the configuration file. -/
def programFiles (arguments : List String) (h : Host) : List String :=
  let loaded := (configFiles arguments h).map fun path => (ConfigStore.mk path).load h.files
  match loaded with
  | [.ok config] => config.kubectlPath.toList ++ Kubectl.wellKnownPlaces ++ h.candidates "kubectl"
  | _ => []

/-- The configuration files that are not what they were before. -/
def changedFiles (arguments : List String) (before after : Host) : List String :=
  (configFiles arguments before).filter fun path =>
    (before.files.read (.ofText path)).toOption ≠ (after.files.read (.ofText path)).toOption

def run (arguments : List String) (h : Host) : Exit × Host :=
  match parse arguments with
  | .ok i =>
    let (report, h) := execute i h
    (exitOf report, h)
  | .error reason => (halt reason, h)

end Program

end PodTunnels
