import LineScopes.Files.Basic
import LineScopes.Text.Blank

/-!
# Directory trees

A directory tree in memory, in which paths are walked component by component.
Outside of the tree there are directories only.
-/

namespace LineScopes

inductive Tree
  | file (bytes : ByteArray)
  | directory (entries : List (String × Tree))
  deriving Inhabited

namespace Tree

def empty : Tree := directory []

def entries : Tree → List (String × Tree)
  | file _ => []
  | directory entries => entries

def replace (name : String) (entry : Tree) : List (String × Tree) → List (String × Tree)
  | [] => [(name, entry)]
  | (other, old) :: rest =>
    if other = name then (name, entry) :: rest else (other, old) :: replace name entry rest

/-- Puts a node at a path and makes the directories that it lies in. -/
def insert (tree : Tree) (path : List String) (node : Tree) : Tree :=
  match path with
  | [] =>
    match node, tree with
    | directory [], directory entries => directory entries
    | _, _ => node
  | name :: rest =>
    let inner := (tree.entries.lookup name).getD empty
    directory (replace name (inner.insert rest node) tree.entries)

/-- The components of a path. -/
def components (path : String) : List String :=
  (Text.split '/' path).filter fun piece => piece ≠ "" ∧ piece ≠ "."

/-- Where a walk stands: at a node with the directories around it, the nearest first, or
outside of the tree. -/
inductive Place
  | inside (node : Tree) (around : List Tree)
  | outside

def Place.walk : List String → Place → Except ReadError Place
  | [], place => .ok place
  | _ :: _, .inside (.file _) _ => .error .notDirectory
  | ".." :: rest, .inside (.directory _) [] => walk rest .outside
  | ".." :: rest, .inside (.directory _) (parent :: around) => walk rest (.inside parent around)
  | name :: rest, .inside (.directory entries) around =>
    match entries.lookup name with
    | some node => walk rest (.inside node (.directory entries :: around))
    | none => .error .noSuchFile
  | ".." :: rest, .outside => walk rest .outside
  | _ :: _, .outside => .error .noSuchFile

/-- A path that ends in a slash or in a dot can only be that of a directory. -/
def needsDirectory (path : String) : Bool := path.endsWith "/" ∨ path.endsWith "/."

def read (tree : Tree) : FileSystem := fun path => do
  if path.isEmpty then throw .noSuchFile
  let start := if path.startsWith "/" then Place.outside else .inside tree []
  match ← start.walk (components path) with
  | .inside (.file bytes) _ =>
    if needsDirectory path then throw .notDirectory
    match String.fromUTF8? bytes with
    | some text => return text
    | none => throw .notText
  | _ => throw .isDirectory

end Tree

end LineScopes
