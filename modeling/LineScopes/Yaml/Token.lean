/-!
# YAML tokens

The words and brackets of a YAML text, among them the ends of blocks, which
nothing but the indentation shows.
-/

namespace LineScopes.Yaml

inductive Style
  | plain
  /-- A block whose lines are kept. -/
  | literal
  | folded
  | quoted
  deriving DecidableEq, Repr

inductive Token
  | version (major minor : Nat)
  | tagDirective (handle meaning : String)
  | documentStart
  | documentEnd
  | blockListStart
  | blockMapStart
  | blockEnd
  | flowListStart
  | flowListEnd
  | flowMapStart
  | flowMapEnd
  | blockEntry
  | flowEntry
  | key
  | value
  | alias (name : String)
  | anchor (name : String)
  | tag (handle suffix : String)
  | scalar (text : String) (style : Style)
  deriving DecidableEq, Repr

end LineScopes.Yaml
