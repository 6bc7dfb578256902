/-!
# Files

What can be read from a file system, and why something cannot be read.
-/

namespace LineScopes

inductive ReadError
  | noSuchFile
  | notDirectory
  | isDirectory
  | notText
  deriving DecidableEq, Repr

def ReadError.message : ReadError → String
  | noSuchFile => "No such file or directory (os error 2)"
  | notDirectory => "Not a directory (os error 20)"
  | isDirectory => "Is a directory (os error 21)"
  | notText => "stream did not contain valid UTF-8"

/-- The text of the file at a path. -/
abbrev FileSystem := (path : String) → Except ReadError String

end LineScopes
