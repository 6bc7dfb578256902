import LineScopes.Text.Blank

/-!
# Paths

A path is a list of components between slashes. Empty components and, other
than at the start, components that stand for the same directory do not count.
-/

namespace LineScopes.Path

/-- A path, seen from a directory. -/
def join (directory path : String) : String :=
  if path.startsWith "/" ∨ directory.isEmpty then path
  else if directory.endsWith "/" then directory ++ path
  else directory ++ "/" ++ path

/-- Drops the pieces that are no components from the end of a path, the last piece first. -/
def dropEmpty : List String → List String
  | piece :: before =>
    if piece = "" ∨ (piece = "." ∧ ¬ before.isEmpty) then dropEmpty before else piece :: before
  | [] => []

/-- The last component and what stands before it. -/
def splitLast (path : String) : Option (String × List String) :=
  match dropEmpty (Text.split '/' path).reverse with
  | last :: before => some (last, before)
  | [] => none

/-- The directory that a path lies in. -/
def parent (path : String) : String :=
  match splitLast path with
  | none => ""
  | some (_, before) =>
    match dropEmpty before with
    | [] => if path.startsWith "/" then "/" else ""
    | before => "/".intercalate before.reverse

/-- What stands after the last dot of the last component, unless the only dot comes first. -/
def extension? (path : String) : Option String := do
  let (name, _) ← splitLast path
  if name = ".." then none
  else
    let reversed := name.toList.reverse
    match reversed.dropWhile (· ≠ '.') with
    | [] | [_] => none
    | _ => some (String.ofList (reversed.takeWhile (· ≠ '.')).reverse)

def isYaml (path : String) : Bool :=
  extension? path = some "yaml" ∨ extension? path = some "yml"

def isJson (path : String) : Bool := extension? path = some "json"

end LineScopes.Path
