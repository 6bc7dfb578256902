import LineScopes.CommandLine.Run
import LineScopes.Regex.Match

/-!
# The program

Reads the files that a command needs and prints what it answers.
-/

namespace LineScopes.Program

open CommandLine

def readError : IO.Error → ReadError
  | .inappropriateType _ code _ => if code = 21 then .isDirectory else .notDirectory
  | _ => .noSuchFile

def readFile (path : String) : IO (Except ReadError String) := do
  try
    match String.fromUTF8? (← IO.FS.readBinFile path) with
    | some text => return .ok text
    | none => return .error .notText
  catch error => return .error (readError error)

/-- What is read at each of these paths. -/
def readFiles (paths : List String) : IO (List (String × Except ReadError String)) :=
  paths.mapM fun path => do return (path, ← readFile path)

def fileSystem (files : List (String × Except ReadError String)) : FileSystem := fun path =>
  (files.lookup path).getD (.error .noSuchFile)

/-- About as many texts of captures within one another as the stack of a thread holds. -/
def maxNesting : Nat := 4096

def workers : Nat := 4

/-- The exit code; for a process that has died, what the system tells of one that is aborted. -/
def exitCode : Ending → Nat
  | .exit code => code
  | .died _ => 134

def settingNames : List String :=
  ["SCOPECHECK_FILTER", "SCOPECHECK_PARALLEL", "SCOPECHECK_FAIL_FAST"]

/-- Everything that a command reads: first its own files, then the grammars of its suites. -/
def environment (arguments : List String) : IO (Environment Regex.Compiled) := do
  let values ← settingNames.mapM fun name => do return (name, ← IO.getEnv name)
  let command := (parse arguments).toOption.getD .help
  let first ← readFiles (Environment.firstPaths command)
  let reading (files : List (String × Except ReadError String)) : Environment Regex.Compiled :=
    { engine := Regex.engine, maxNesting, files := fileSystem files, workers
      workers_pos := by decide
      setting? := fun name => (values.lookup name).join }
  let suites := ((reading first).loadSuites (Environment.firstPaths command)).toOption.getD []
  return reading (first ++ (← readFiles (Environment.grammarPaths suites)))

end LineScopes.Program

def main (arguments : List String) : IO UInt32 := do
  let environment ← LineScopes.Program.environment arguments
  let result := environment.respond arguments
  IO.print result.output
  IO.eprint result.errors
  return (LineScopes.Program.exitCode result.ending).toUInt32
