import LineScopes.Files.Basic
import LineScopes.Text.Quoted

/-!
# Loading suites and themes
-/

namespace LineScopes

inductive LoadError
  | unreadable (path : String) (cause : ReadError)
  | badJson (path message : String)
  | badYaml (path message : String)
  | unknownFormat (path : String)
  deriving DecidableEq, Repr

def LoadError.message : LoadError → String
  | unreadable path cause => "failed to read " ++ Text.quoted path ++ ": " ++ cause.message
  | badJson path message | badYaml path message =>
    "failed to parse " ++ Text.quoted path ++ ": " ++ message
  | unknownFormat path =>
    "unsupported file format for " ++ Text.quoted path ++ " (expected .json, .yaml or .yml)"

end LineScopes
