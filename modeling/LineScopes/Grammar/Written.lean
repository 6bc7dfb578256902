import LineScopes.Document.Basic

/-!
# Grammars as written

The fields of a grammar document, before its includes are resolved and its
regular expressions compiled. Fields of other names are ignored.
-/

namespace LineScopes.Written

open Document (Format Field)

structure Rule where
  name : Option String := none
  contentName : Option String := none
  matching : Option String := none
  opening : Option String := none
  closing : Option String := none
  continuing : Option String := none
  reference : Option String := none
  captures : List (String × Rule) := []
  openingCaptures : List (String × Rule) := []
  closingCaptures : List (String × Rule) := []
  continuingCaptures : List (String × Rule) := []
  patterns : List Rule := []
  repository : List (String × Rule) := []
  closingLast : Bool := false
  deriving Inhabited

structure Grammar where
  scopeName : Option String := none
  name : Option String := none
  patterns : List Rule := []
  repository : List (String × Rule) := []
  deriving Inhabited

variable {m : Type → Type} [Format m]

def optionalText : m (Option String) := Format.optional (Format.text "a string")

def Rule.fields (rule : m Rule) : List (Field m Rule) := [
  .optional "name" optionalText fun x r => { r with name := x },
  .optional "contentName" optionalText fun x r => { r with contentName := x },
  .optional "match" optionalText fun x r => { r with matching := x },
  .optional "begin" optionalText fun x r => { r with opening := x },
  .optional "end" optionalText fun x r => { r with closing := x },
  .optional "while" optionalText fun x r => { r with continuing := x },
  .optional "include" optionalText fun x r => { r with reference := x },
  .optional "captures" (Format.entries rule) fun x r => { r with captures := x },
  .optional "beginCaptures" (Format.entries rule) fun x r => { r with openingCaptures := x },
  .optional "endCaptures" (Format.entries rule) fun x r => { r with closingCaptures := x },
  .optional "whileCaptures" (Format.entries rule) fun x r => { r with continuingCaptures := x },
  .optional "patterns" (Format.list rule) fun x r => { r with patterns := x },
  .optional "repository" (Format.entries rule) fun x r => { r with repository := x },
  .optional "applyEndPatternLast" Document.flag fun x r => { r with closingLast := x }]

/-- Rules nest no deeper than documents do. -/
def Rule.read : (depth : Nat) → m Rule
  | 0 => Format.tooDeep
  | depth + 1 => Format.record "RawRule" (Rule.fields (Rule.read depth)) {}

def Grammar.fields (rule : m Rule) : List (Field m Grammar) := [
  .optional "scopeName" optionalText fun x g => { g with scopeName := x },
  .optional "name" optionalText fun x g => { g with name := x },
  .optional "patterns" (Format.list rule) fun x g => { g with patterns := x },
  .optional "repository" (Format.entries rule) fun x g => { g with repository := x }]

def maxNesting : Nat := 128

def Grammar.read : m Grammar :=
  Format.record "RawGrammar" (Grammar.fields (Rule.read maxNesting)) {}

end LineScopes.Written
