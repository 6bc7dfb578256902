import LineScopes.Halt
import LineScopes.Text.Quoted

/-!
# Errors of the tokenizer

A pattern that is rebuilt from the text of a begin match may turn out not to
be a regular expression.
-/

namespace LineScopes

def badRegexMessage (pattern message : String) : String :=
  "invalid regex " ++ Text.quoted pattern ++ ": " ++ message

inductive TokenizeError
  | badRegex (pattern message : String)
  deriving DecidableEq, Repr

def TokenizeError.message : TokenizeError → String
  | badRegex pattern message => badRegexMessage pattern message

end LineScopes
