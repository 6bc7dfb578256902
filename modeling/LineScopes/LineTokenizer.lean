import LineScopes.Token
import LineScopes.Tokenizer.Line

/-!
# Tokenizers that go line by line

A tokenizer of any kind takes the stack that the line before has left, and
leaves one for the next line. Besides that it may have a state of its own,
which changes with each line, also with one that it fails on.
-/

namespace LineScopes

/-- A line tokenizer with state `σ` and stacks `τ`. -/
structure LineTokenizer (σ τ : Type) where
  initial : τ
  tokenize : τ → (line : String) → EStateM (Halt TokenizeError) σ (List Token × τ)

namespace LineTokenizer

def tokenizeFrom (tokenizer : LineTokenizer σ τ) (stack : τ) :
    List String → EStateM (Halt TokenizeError) σ (List (List Token) × τ)
  | [] => return ([], stack)
  | line :: rest => do
    let (tokens, stack) ← tokenizer.tokenize stack line
    let (lines, stack) ← tokenizer.tokenizeFrom stack rest
    return (tokens :: lines, stack)

/-- The tokens of each line, and the stack after the last one. -/
def tokenizeLines (tokenizer : LineTokenizer σ τ) (lines : List String) :
    EStateM (Halt TokenizeError) σ (List (List Token) × τ) :=
  tokenizer.tokenizeFrom tokenizer.initial lines

end LineTokenizer

def Tokenizer.lineTokenizer (tokenizer : Tokenizer ρ) :
    LineTokenizer (Tokenizer.Compiled ρ) (Stack ρ) where
  initial := tokenizer.initialStack
  tokenize := tokenizer.tokenizeNext

end LineScopes
