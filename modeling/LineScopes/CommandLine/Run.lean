import LineScopes.CommandLine.Arguments
import LineScopes.Suite.Pool
import LineScopes.Theme.Load

/-!
# Commands

What the program prints and how it exits, given the files and the environment
that it can read. It exits with zero if all cases have passed, with one if a
case has failed, and with two if nothing could be run. It may die in a case, and
what it has printed by then remains.
-/

namespace LineScopes.CommandLine

inductive Ending
  | exit (code : Nat)
  | died (cause : Crash)
  deriving DecidableEq, Repr

structure Result where
  ending : Ending
  output : String := ""
  errors : String := ""
  deriving DecidableEq, Repr

def Result.ofLoadError (error : LoadError) : Result where
  ending := .exit 2
  errors := "error: " ++ error.message ++ "\n"

def Result.ofUsageError (error : UsageError) : Result where
  ending := .exit 2
  errors := "error: " ++ error.message ++ "\n"

def versionText : String := "scopecheck 0.3.0\n"

def helpText : String :=
  "Conformance harness for TextMate grammar tokenizers\n\n" ++
  "Usage: scopecheck run [--filter <FILTER>] [--parallel] [--fail-fast] <SUITES>...\n" ++
  "       scopecheck theme [--foreground <COLOR>] [--background <COLOR>] <THEME> <SCOPES>...\n"

structure Environment (ρ : Type) where
  engine : Engine ρ
  /-- How many texts of captures within one another the stack of the program holds. -/
  maxNesting : Nat
  files : FileSystem
  /-- How many workers the machine has room for. -/
  workers : Nat
  workers_pos : 0 < workers
  setting? : String → Option String

namespace Environment

/-- Loads all suites before any of them runs. -/
def loadSuites (environment : Environment ρ) (paths : List String) :
    Except LoadError (List (String × Suite)) :=
  paths.mapM fun path => do return (path, ← Suite.load environment.files path)

/-- What arguments say goes before what the environment says. -/
def config (environment : Environment ρ) (arguments : RunArguments) : RunConfig :=
  let general := RunConfig.ofLookup environment.setting?
  { filter := arguments.filter.or general.filter
    parallel := arguments.parallel || general.parallel
    failFast := arguments.failFast || general.failFast }

def runner (environment : Environment ρ) (arguments : RunArguments) : Suite.Runner ρ :=
  { environment with config := environment.config arguments }

/-- Runs suites up to the first with a failure if the run is to stop there; answers the output
and whether a case has failed, unless the program dies before that is known. -/
def runSuites (runner : Suite.Runner ρ) : List (String × Suite) → String × Except Crash Bool
  | [] => ("", .ok false)
  | (path, suite) :: rest =>
    match suite.run runner with
    | .error crash => (path ++ "\n", .error crash)
    | .ok report =>
      let text := path ++ "\n" ++ report.text ++ "\n\n"
      if ¬ report.isSuccess ∧ runner.config.failFast then (text, .ok true)
      else
        let (others, failed) := runSuites runner rest
        (text ++ others, failed.map (· || ¬ report.isSuccess))

def run (environment : Environment ρ) (arguments : RunArguments) : Result :=
  match environment.loadSuites arguments.suites with
  | .error error => .ofLoadError error
  | .ok suites =>
    let (output, failed) := runSuites (environment.runner arguments) suites
    let ending := match failed with
      | .error crash => .died crash
      | .ok failed => .exit (if failed then 1 else 0)
    { ending, output }

def styleText (scopePath : String) (style : ResolvedStyle) : String :=
  scopePath ++ "\tforeground=" ++ style.foreground ++ " background=" ++ style.background ++
    " fontStyle=" ++ style.fontStyle.getD "-" ++ "\n"

def theme (environment : Environment ρ) (arguments : ThemeArguments) : Result :=
  let standard : ThemeDefaults := {}
  let defaults : ThemeDefaults := {
    foreground := arguments.foreground.getD standard.foreground
    background := arguments.background.getD standard.background }
  match Theme.load defaults environment.files arguments.theme with
  | .error error => .ofLoadError error
  | .ok theme => {
      ending := .exit 0
      output := String.join (arguments.scopes.map fun path => styleText path (theme.resolve path)) }

def execute (environment : Environment ρ) : Command → Result
  | .run arguments => environment.run arguments
  | .theme arguments => environment.theme arguments
  | .version => { ending := .exit 0, output := versionText }
  | .help => { ending := .exit 0, output := helpText }

def respond (environment : Environment ρ) (arguments : List String) : Result :=
  match parse arguments with
  | .ok command => environment.execute command
  | .error error => .ofUsageError error

/-- The files that a command reads before it has read any. -/
def firstPaths : Command → List String
  | .run arguments => arguments.suites
  | .theme arguments => [arguments.theme]
  | .version | .help => []

/-- The grammars that the cases of suites refer to. -/
def grammarPaths (suites : List (String × Suite)) : List String :=
  suites.flatMap fun (_, suite) => suite.cases.flatMap fun case =>
    case.references.map (Path.join suite.baseDir)

end Environment

end LineScopes.CommandLine
