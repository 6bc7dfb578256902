import LineScopes.Grammar.Load
import LineScopes.LineTokenizer
import LineScopes.Validation

/-!
# Lines with expectations

The lines of a case are tokenized and validated one after the other, up to the
first failure. They are counted from one.
-/

namespace LineScopes

structure LineCase where
  line : String
  tokens : List ExpectedToken := []
  deriving DecidableEq, Repr

inductive CaseError
  | load (cause : GrammarError)
  | grammarNotFound (scopeName : Option String)
  | tokenize (line : Nat) (cause : TokenizeError)
  | mismatch (line : Nat) (text : String) (difference : Mismatch)
  deriving DecidableEq, Repr

def CaseError.message : CaseError → String
  | load cause => "grammar load failed: " ++ cause.message
  | grammarNotFound scopeName =>
    "no grammar found for scope " ++ scopeName.getD "<unspecified>"
  | tokenize line cause =>
    "line " ++ toString line ++ ": tokenizer failed: " ++ cause.message
  | mismatch line text difference =>
    "line " ++ toString line ++ " " ++ Text.quoted text ++ ": " ++ difference.message

namespace LineTokenizer

def driveFrom (tokenizer : LineTokenizer σ τ) (number : Nat) (stack : τ) :
    List LineCase → EStateM (Halt CaseError) σ Unit
  | [] => return
  | case :: rest => do
    let (tokens, stack) ←
      (tokenizer.tokenize stack case.line).adaptExcept (.map (.tokenize number))
    match validateLine case.line tokens case.tokens with
    | .ok () => tokenizer.driveFrom (number + 1) stack rest
    | .error difference => throw (.error (.mismatch number case.line difference))

def drive (tokenizer : LineTokenizer σ τ) (cases : List LineCase) :
    EStateM (Halt CaseError) σ Unit :=
  tokenizer.driveFrom 1 tokenizer.initial cases

end LineTokenizer

end LineScopes
