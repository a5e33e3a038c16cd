/-!
# The command line

The arguments are read from left to right. They go down through levels: the program, a command, a
command of that command. Each level knows some switches, and those of the program are known at
every level. A switch is written long or short; short ones may stand together behind one dash, and
a value is attached to its switch, with or without an equals sign, or is the next argument. An
argument that begins with a dash is never a value or an operand, except for the dash alone and for
what follows a double dash.

A switch is given at most once on a level, and what is given further down counts. The first thing
that is wrong, or that asks for help or the version, decides.
-/

namespace PodTunnels.CommandLine

/-- A place in the tree of commands. -/
inductive Level where
  | program
  | pods
  | forward
  | config
  | showConfig
  | initConfig
  | help
deriving DecidableEq, Repr, Inhabited

/-- What a switch is for. -/
inductive Switch where
  | ns
  | configFile
  | json
  | plain
  | verbose
  | help
  | version
  | container
  | address
  | force
deriving DecidableEq, Repr

def Switch.takesValue : Switch → Bool
  | ns | configFile | container | address => true
  | json | plain | verbose | help | version | force => false

namespace Level

/-- The full name of a level, as the version shows it. -/
def name : Level → String
  | program => "podfwd"
  | pods => "podfwd-pods"
  | forward => "podfwd-forward"
  | config => "podfwd-config"
  | showConfig => "podfwd-config-show"
  | initConfig => "podfwd-config-init"
  | help => "podfwd-help"

def command? (level : Level) (name : String) : Option Level :=
  match level, name with
  | program, "pods" | program, "ls" => some pods
  | program, "forward" | program, "pf" => some forward
  | program, "config" => some config
  | program, "help" | config, "help" => some help
  | config, "show" => some showConfig
  | config, "init" => some initConfig
  | _, _ => none

def long? (level : Level) (name : String) : Option Switch :=
  match level, name with
  | _, "namespace" => some .ns
  | _, "config" => some .configFile
  | _, "json" => some .json
  | _, "no-tui" => some .plain
  | _, "verbose" => some .verbose
  | _, "help" => some .help
  | _, "version" => some .version
  | forward, "container" => some .container
  | forward, "address" => some .address
  | initConfig, "force" => some .force
  | _, _ => none

def short? (level : Level) (name : Char) : Option Switch :=
  match level, name with
  | _, 'n' => some .ns
  | _, 'v' => some .verbose
  | _, 'h' => some .help
  | _, 'V' => some .version
  | forward, 'c' => some .container
  | initConfig, 'f' => some .force
  | _, _ => none

end Level

/-- What a command line asks the program to do. -/
inductive Verb where
  | pods
  | forward (target : String) (mappings : List String) (container address : Option String)
  | showConfig
  | initConfig (force : Bool)
deriving DecidableEq, Repr

/-- A command line that was understood. Without a command the pods are listed. -/
structure Invocation where
  verb : Option Verb
  ns : Option String
  configFile : Option String
  json : Bool
  plain : Bool
  verbose : Bool
deriving DecidableEq, Repr

/-- Why there is nothing to do for the program. -/
inductive Halt where
  | misused
  | help
  | version (level : Level)
deriving DecidableEq, Repr

/-- What was read so far. -/
structure Reading where
  level : Level := .program
  /-- The switches given on this level. -/
  here : List (Switch × String) := []
  /-- The switches given above, those further down first. -/
  above : List (Switch × String) := []
  operands : List String := []
  /-- The switch whose value is to come. -/
  awaiting : Option Switch := none
  /-- Whether a double dash was read on this level. -/
  literal : Bool := false
  /-- The level that help is asked for. -/
  topic : Level := .program
deriving Repr

namespace Reading

def give (r : Reading) (s : Switch) (value : String) : Except Halt Reading :=
  match s with
  | .help => throw .help
  | .version => throw (.version r.level)
  | s =>
    if (r.here.lookup s).isSome ∨ (s = .configFile ∧ value.isEmpty) then throw .misused
    else pure { r with here := (s, value) :: r.here, awaiting := none }

/-- Take a group of short switches. -/
def cluster (r : Reading) : List Char → Except Halt Reading
  | [] => pure r
  | c :: cs =>
    match r.level.short? c, cs with
    | none, _ => throw .misused
    | some s, cs =>
      if s.takesValue then
        match cs with
        | [] => pure { r with awaiting := some s }
        | '=' :: value => r.give s (String.ofList value)
        | value => r.give s (String.ofList value)
      else do (← r.give s "").cluster cs

/-- Take a long switch, given its name and what follows an equals sign. -/
def spelled (r : Reading) (name : String) (value : Option String) : Except Halt Reading :=
  match r.level.long? name, value with
  | none, _ => throw .misused
  | some s, some value => if s.takesValue then r.give s value else throw .misused
  | some s, none =>
    if s.takesValue then pure { r with awaiting := some s } else r.give s ""

/-- Take an operand. Only a forward has any. -/
def operand (r : Reading) (arg : String) : Except Halt Reading :=
  if r.level = .forward then pure { r with operands := r.operands ++ [arg] } else throw .misused

def descend (r : Reading) (level : Level) : Reading :=
  { level, above := r.here ++ r.above, topic := r.level }

/-- Take an argument that is no value of a switch before it. -/
def plainStep (r : Reading) (arg : String) : Except Halt Reading :=
  match r.level.command? arg with
  | some level => pure (r.descend level)
  | none =>
    match arg.toList with
    | ['-', '-'] => pure { r with literal := true }
    | '-' :: '-' :: rest =>
      let (name, value) := rest.span (· ≠ '=')
      r.spelled (String.ofList name)
        (match value with
        | _ :: value => some (String.ofList value)
        | [] => none)
    | '-' :: c :: rest => r.cluster (c :: rest)
    | _ => r.operand arg

/-- Whether an argument can only be a switch. -/
def isDashed (arg : String) : Bool :=
  arg.startsWith "-" && arg ≠ "-"

def step (r : Reading) (arg : String) : Except Halt Reading :=
  if r.level = .help then
    match r.topic.command? arg with
    | some topic => pure { r with topic }
    | none => throw .misused
  else if r.literal then r.operand arg
  else
    match r.awaiting with
    | some s => if isDashed arg then throw .misused else r.give s arg
    | none => r.plainStep arg

/-- The value of a switch, if it was given; that of the lowest level counts. -/
def value? (r : Reading) (s : Switch) : Option String :=
  (r.here ++ r.above).lookup s

def has (r : Reading) (s : Switch) : Bool :=
  (r.value? s).isSome

def verb (r : Reading) : Except Halt (Option Verb) :=
  match r.level with
  | .program => pure none
  | .pods => pure (some .pods)
  | .forward =>
    match r.operands with
    | target :: mapping :: mappings =>
      pure (some (.forward target (mapping :: mappings) (r.value? .container)
        (r.value? .address)))
    | _ => throw .misused
  | .config | .showConfig => pure (some .showConfig)
  | .initConfig => pure (some (.initConfig (r.has .force)))
  | .help => throw .help

/-- What was read, when the arguments are at their end. -/
def finish (r : Reading) : Except Halt Invocation := do
  if r.awaiting.isSome then throw .misused
  let verb ← r.verb
  return {
    verb
    ns := r.value? .ns
    configFile := r.value? .configFile
    json := r.has .json
    plain := r.has .plain
    verbose := r.has .verbose }

end Reading

def parse (arguments : List String) : Except Halt Invocation := do
  (← arguments.foldlM Reading.step {}).finish

end PodTunnels.CommandLine
