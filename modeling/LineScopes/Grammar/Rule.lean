import LineScopes.Engine

/-!
# Compiled grammars

The rules of a grammar stand in one arena and refer to each other by their
index in it, so that they may include each other in circles. Includes of other
grammars stay symbolic.
-/

namespace LineScopes

/-- The index of a rule in its grammar. -/
abbrev RuleId := Nat

inductive PatternRef
  | rule (id : RuleId)
  /-- The top-level patterns of the grammar that the rule belongs to. -/
  | self
  /-- The top-level patterns of the grammar that is being tokenized. -/
  | base
  /-- The top-level patterns of another grammar, or a rule of its repository. -/
  | external (scope : String) (rule : Option String)
  deriving DecidableEq, Repr

/-- The pattern that ends or continues a rule. -/
inductive EndPattern (ρ : Type)
  | static (regex : ρ)
  /-- The source of a pattern that refers to the groups of the begin match. -/
  | dynamic (source : String)
  deriving DecidableEq, Repr

/-- The rules of capture groups, in the order of the group numbers. -/
abbrev Captures := List (Nat × RuleId)

inductive Rule (ρ : Type)
  | matching (name : Option String) (regex : ρ) (captures : Captures)
  | beginEnd (name contentName : Option String) (opening : ρ) (closing : EndPattern ρ)
      (openingCaptures closingCaptures : Captures) (patterns : List PatternRef)
      (closingLast : Bool)
  | beginWhile (name contentName : Option String) (opening : ρ) (condition : EndPattern ρ)
      (openingCaptures conditionCaptures : Captures) (patterns : List PatternRef)
  /-- A name and patterns without a regular expression: included rules, capture rules and
  the top level of a grammar. -/
  | group (name : Option String) (patterns : List PatternRef)
  deriving DecidableEq, Repr

namespace Rule

def name : Rule ρ → Option String
  | matching name .. | beginEnd name .. | beginWhile name .. | group name _ => name

def contentName : Rule ρ → Option String
  | beginEnd _ contentName .. | beginWhile _ contentName .. => contentName
  | matching .. | group .. => none

def patterns : Rule ρ → List PatternRef
  | beginEnd _ _ _ _ _ _ patterns _ | beginWhile _ _ _ _ _ _ patterns | group _ patterns => patterns
  | matching .. => []

/-- The regular expression that a rule starts with. -/
def regex? : Rule ρ → Option ρ
  | matching _ regex _ | beginEnd _ _ regex .. | beginWhile _ _ regex .. => some regex
  | group .. => none

/-- The pattern that a begin/end rule ends with. -/
def closing? : Rule ρ → Option (EndPattern ρ)
  | beginEnd _ _ _ closing .. => some closing
  | _ => none

/-- The pattern that a begin/while rule needs on each line. -/
def condition? : Rule ρ → Option (EndPattern ρ)
  | beginWhile _ _ _ condition .. => some condition
  | _ => none

def closingLast : Rule ρ → Bool
  | beginEnd _ _ _ _ _ _ _ closingLast => closingLast
  | _ => false

def closingCaptures : Rule ρ → Captures
  | beginEnd _ _ _ _ _ captures .. => captures
  | _ => []

def conditionCaptures : Rule ρ → Captures
  | beginWhile _ _ _ _ _ captures _ => captures
  | _ => []

/-- What stands where nothing has been compiled. -/
def placeholder : Rule ρ := group none []

end Rule

structure Grammar (ρ : Type) where
  scopeName : String
  name : Option String
  rules : Array (Rule ρ)
  /-- The rule that holds the top-level patterns. -/
  root : RuleId
  repository : List (String × RuleId)
  deriving DecidableEq, Repr

namespace Grammar

def rule (grammar : Grammar ρ) (id : RuleId) : Rule ρ := (grammar.rules[id]?).getD .placeholder

def repositoryRule (grammar : Grammar ρ) (name : String) : Option RuleId :=
  grammar.repository.lookup name

end Grammar

end LineScopes
