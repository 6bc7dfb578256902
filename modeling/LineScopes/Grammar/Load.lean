import LineScopes.Files.Basic
import LineScopes.Files.Path
import LineScopes.Grammar.Compile
import LineScopes.Json.Document
import LineScopes.Tokenizer.Error
import LineScopes.Yaml.Document

/-!
# Loading grammars

A grammar file is a YAML document if its name says so, and a JSON document
otherwise.
-/

namespace LineScopes

inductive GrammarError
  | unreadable (path : String) (cause : ReadError)
  | badJson (origin message : String)
  | badYaml (origin message : String)
  | noScopeName (origin : String)
  | badRegex (pattern message : String)
  deriving DecidableEq, Repr

namespace GrammarError

def message : GrammarError → String
  | unreadable path cause =>
    "failed to read grammar " ++ Text.quoted path ++ ": " ++ cause.message
  | badJson origin message => "invalid grammar JSON in " ++ origin ++ ": " ++ message
  | badYaml origin message => "invalid grammar YAML in " ++ origin ++ ": " ++ message
  | noScopeName origin => "grammar in " ++ origin ++ " does not declare a scopeName"
  | badRegex pattern message => badRegexMessage pattern message

def ofCompile (origin : String) : CompileError → GrammarError
  | .noScopeName => noScopeName origin
  | .badRegex pattern message => badRegex pattern message

end GrammarError

namespace Grammar

/-- Where a grammar that is not read from a file comes from. -/
def inlineOrigin : String := "<inline>"

def ofWritten (engine : Engine ρ) (origin : String) (written : Written.Grammar) :
    Except (Halt GrammarError) (Grammar ρ) :=
  (compile engine written).mapError (.map (.ofCompile origin))

def ofJson (engine : Engine ρ) (origin source : String) :
    Except (Halt GrammarError) (Grammar ρ) := do
  let written ← (Json.readDocument Written.Grammar.read source).mapError
    fun message => .error (.badJson origin message)
  ofWritten engine origin written

def ofYaml (engine : Engine ρ) (origin source : String) :
    Except (Halt GrammarError) (Grammar ρ) := do
  let written ← (Yaml.readDocument Written.Grammar.read source).mapError
    fun message => .error (.badYaml origin message)
  ofWritten engine origin written

def load (engine : Engine ρ) (files : FileSystem) (path : String) :
    Except (Halt GrammarError) (Grammar ρ) := do
  let source ← (files path).mapError fun cause => .error (.unreadable path cause)
  if Path.isYaml path then ofYaml engine path source else ofJson engine path source

end Grammar

end LineScopes
