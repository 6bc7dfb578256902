import LineScopes.Tokenizer.Continuation

/-!
# Tokenizing lines

A line is matched with a line end after it, so that patterns can match that;
tokens do not reach into it. The stack after a line is where the next one
starts.
-/

namespace LineScopes

namespace Context

variable {m : Type → Type} [Monad m] [MonadExceptOf (Halt TokenizeError) m] (context : Context m ρ)

/-- Tokenizes a line, and the captures within it as given. -/
def tokenizeWith (rescan : Rescan m ρ) (stack : Stack ρ) (line : String) :
    m (List Token × Stack ρ) := do
  let text := line ++ "\n"
  let scan ← Scan.continued context rescan text stack
  let (stack, paint) ← scan.toEnd context rescan text
  return (paint.tokens line.utf8ByteSize stack.scopes, stack.endLine)

/-- Tokenizes a line, the texts of captures within one another no deeper than given. -/
def tokenizeWithin (nesting : Nat) (stack : Stack ρ) (line : String) :
    m (List Token × Stack ρ) :=
  context.tokenizeWith (Passage.tokenizeWithin context nesting) stack line

end Context

structure Tokenizer (ρ : Type) extends Library ρ where
  engine : Engine ρ
  /-- How many texts of captures within one another the stack of the program holds. -/
  maxNesting : Nat

namespace Tokenizer

def compile (engine : Engine ρ) (source : String) : Except (Halt TokenizeError) ρ :=
  (engine.compile source).mapError fun message => .error (.badRegex source message)

def context (tokenizer : Tokenizer ρ) : Context (Except (Halt TokenizeError)) ρ :=
  { tokenizer with search := tokenizer.engine.search, compile := compile tokenizer.engine }

def initialStack (tokenizer : Tokenizer ρ) : Stack ρ := .initial tokenizer.base

def tokenizeLine (tokenizer : Tokenizer ρ) (stack : Stack ρ) (line : String) :
    Except (Halt TokenizeError) (List Token × Stack ρ) :=
  tokenizer.context.tokenizeWithin tokenizer.maxNesting stack line

/-! ## Remembering compiled patterns -/

/-- Patterns that have been compiled, by their sources. -/
abbrev Compiled (ρ : Type) := List (String × ρ)

def compileOnce (engine : Engine ρ) (source : String) :
    EStateM (Halt TokenizeError) (Compiled ρ) ρ := do
  match (← get).lookup source with
  | some regex => return regex
  | none =>
    match compile engine source with
    | .ok regex =>
      modify ((source, regex) :: ·)
      return regex
    | .error e => throw e

def rememberingContext (tokenizer : Tokenizer ρ) :
    Context (EStateM (Halt TokenizeError) (Compiled ρ)) ρ :=
  { tokenizer with search := tokenizer.engine.search, compile := compileOnce tokenizer.engine }

/-- Tokenizes a line with what has been compiled for earlier ones. -/
def tokenizeNext (tokenizer : Tokenizer ρ) (stack : Stack ρ) (line : String) :
    EStateM (Halt TokenizeError) (Compiled ρ) (List Token × Stack ρ) :=
  tokenizer.rememberingContext.tokenizeWithin tokenizer.maxNesting stack line

end Tokenizer

end LineScopes
