/-!
# Arguments of the command line

An argument that begins with a dash is an option, and what follows two dashes
alone is none. An option takes its value after an equals sign or from the next
argument; no option may be given twice.
-/

namespace LineScopes.CommandLine

inductive UsageError
  | noCommand
  | unknownCommand (name : String)
  | unknownOption (name : String)
  | noValue (option : String)
  | unwantedValue (option : String)
  | repeatedOption (option : String)
  | emptyPath
  | missing (what : String)
  deriving DecidableEq, Repr

def UsageError.message : UsageError → String
  | noCommand => "a command is required"
  | unknownCommand name => "unrecognized command '" ++ name ++ "'"
  | unknownOption name => "unexpected argument '" ++ name ++ "'"
  | noValue option => "a value is required for '" ++ option ++ "'"
  | unwantedValue option => "unexpected value for '" ++ option ++ "'"
  | repeatedOption option => "the argument '" ++ option ++ "' cannot be used multiple times"
  | emptyPath => "a path cannot be empty"
  | missing what => "required arguments were not provided: " ++ what

/-- Why arguments are no options and values: they are wrong, or ask for something else. -/
inductive Refusal
  | usage (error : UsageError)
  | help
  deriving DecidableEq, Repr

/-- Which options a command has, and how many of its first values are paths. -/
structure Signature where
  flags : List String
  valued : List String
  paths : Option Nat

/-- Options and other values in the order in which they were given. -/
structure Given where
  flags : List String := []
  options : List (String × String) := []
  values : List String := []

namespace Given

def addFlag (given : Given) (name : String) : Except Refusal Given :=
  if given.flags.contains name then .error (.usage (.repeatedOption name))
  else .ok { given with flags := given.flags ++ [name] }

def addOption (given : Given) (name value : String) : Except Refusal Given :=
  if (given.options.lookup name).isSome then .error (.usage (.repeatedOption name))
  else .ok { given with options := given.options ++ [(name, value)] }

def addValue (signature : Signature) (given : Given) (value : String) : Except Refusal Given :=
  if value.isEmpty ∧ signature.paths.all (given.values.length < ·) then
    .error (.usage .emptyPath)
  else .ok { given with values := given.values ++ [value] }

end Given

def isOption (argument : String) : Bool := argument.startsWith "-" && argument ≠ "-"

/-- The name of an option and the value after its equals sign. -/
def splitOption (argument : String) : String × Option String :=
  match argument.toList.span (· ≠ '=') with
  | (name, _ :: value) => (String.ofList name, some (String.ofList value))
  | (_, []) => (argument, none)

/-- Adds an argument; answers whether it is an option that waits for its value. -/
def Given.add (signature : Signature) (given : Given) (argument : String) :
    Except Refusal (Given × Option String) := do
  if ¬ isOption argument then return (← given.addValue signature argument, none)
  if ¬ argument.startsWith "--" then
    throw (if argument.startsWith "-h" then .help else .usage (.unknownOption argument))
  match splitOption argument with
  | ("--help", none) => throw .help
  | ("--help", some _) => throw (.usage (.unwantedValue "--help"))
  | (name, value) =>
    if signature.flags.contains name then
      if value.isSome then throw (.usage (.unwantedValue name))
      return (← given.addFlag name, none)
    else if signature.valued.contains name then
      match value with
      | some value => return (← given.addOption name value, none)
      | none => return (given, some name)
    else throw (.usage (.unknownOption argument))

/-- Takes arguments apart, the first of them being the value of an option that waits for it. -/
def readArguments (signature : Signature) (given : Given) (waiting : Option String) :
    List String → Except Refusal Given
  | [] =>
    match waiting with
    | some option => throw (.usage (.noValue option))
    | none => return given
  | argument :: rest => do
    match waiting with
    | some option =>
      if isOption argument then throw (.usage (.noValue option))
      readArguments signature (← given.addOption option argument) none rest
    | none =>
      if argument = "--" then rest.foldlM (Given.addValue signature) given
      else
        let (given, waiting) ← given.add signature argument
        readArguments signature given waiting rest

/-! ## Commands -/

structure RunArguments where
  suites : List String
  filter : Option String
  parallel : Bool
  failFast : Bool
  deriving DecidableEq, Repr

structure ThemeArguments where
  theme : String
  scopes : List String
  foreground : Option String
  background : Option String
  deriving DecidableEq, Repr

inductive Command
  | run (arguments : RunArguments)
  | theme (arguments : ThemeArguments)
  | version
  | help
  deriving DecidableEq, Repr

def runSignature : Signature where
  flags := ["--parallel", "--fail-fast"]
  valued := ["--filter"]
  paths := none

def themeSignature : Signature where
  flags := []
  valued := ["--foreground", "--background"]
  paths := some 1

def readRun (arguments : List String) : Except Refusal Command := do
  let given ← readArguments runSignature {} none arguments
  if given.values.isEmpty then throw (.usage (.missing "<SUITES>..."))
  return .run {
    suites := given.values
    filter := given.options.lookup "--filter"
    parallel := given.flags.contains "--parallel"
    failFast := given.flags.contains "--fail-fast" }

def readTheme (arguments : List String) : Except Refusal Command := do
  let given ← readArguments themeSignature {} none arguments
  match given.values with
  | [] => throw (.usage (.missing "<THEME> <SCOPES>..."))
  | [_] => throw (.usage (.missing "<SCOPES>..."))
  | theme :: scopes => return .theme {
      theme, scopes
      foreground := given.options.lookup "--foreground"
      background := given.options.lookup "--background" }

def commandNames : List String := ["run", "theme", "help"]

def readHelp : List String → Except Refusal Command
  | [] => return .help
  | name :: _ =>
    if commandNames.contains name then return .help else throw (.usage (.unknownCommand name))

def readCommand : List String → Except Refusal Command
  | [] => throw (.usage .noCommand)
  | "run" :: rest => readRun rest
  | "theme" :: rest => readTheme rest
  | "help" :: rest => readHelp rest
  | "--version" :: _ => return .version
  | "--help" :: _ => throw .help
  | argument :: _ =>
    if argument.startsWith "-V" then return .version
    else if argument.startsWith "-h" then throw .help
    else if isOption argument then throw (.usage (.unknownOption argument))
    else throw (.usage (.unknownCommand argument))

/-- The command that arguments stand for. -/
def parse (arguments : List String) : Except UsageError Command :=
  match readCommand arguments with
  | .ok command => .ok command
  | .error .help => .ok .help
  | .error (.usage error) => .error error

end LineScopes.CommandLine
