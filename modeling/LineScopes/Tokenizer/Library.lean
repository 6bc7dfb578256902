import LineScopes.Registry
import LineScopes.Tokenizer.Stack

/-!
# Rules that patterns lead to

Patterns are looked up in the grammar that is tokenized, which stands for its
own scope name whatever is registered under it, and in the registry. What has
no regular expression of its own is replaced by its patterns, and each rule
counts where it is met first.
-/

namespace LineScopes

/-- The grammars that rules can be taken from. -/
structure Library (ρ : Type) where
  base : Grammar ρ
  registry : Registry ρ

namespace Library

def grammar? (library : Library ρ) (scope : String) : Option (Grammar ρ) :=
  if library.base.scopeName = scope then some library.base else library.registry.get? scope

/-- The rule that a pattern of `grammar` refers to. -/
def resolve (library : Library ρ) (grammar : Grammar ρ) : PatternRef → Option (RuleRef ρ)
  | .rule id => some ⟨grammar, id⟩
  | .self => some (.root grammar)
  | .base => some (.root library.base)
  | .external scope none => (library.grammar? scope).map .root
  | .external scope (some name) => do
    let target ← library.grammar? scope
    let id ← target.repositoryRule name
    return ⟨target, id⟩

def ruleCount (library : Library ρ) : Nat := library.base.rules.size + library.registry.ruleCount

/-- The rules that have been met, and those of them that have a regular expression, the last
one first. -/
structure Expansion (ρ : Type) where
  met : List (String × RuleId) := []
  found : List (RuleRef ρ) := []

/-- Follows patterns in their order. Each level meets a group that was not met before. -/
def expand (library : Library ρ) (depth : Nat) (grammar : Grammar ρ) (patterns : List PatternRef)
    (expansion : Expansion ρ) : Expansion ρ :=
  patterns.foldl (fun expansion pattern =>
    match library.resolve grammar pattern with
    | none => expansion
    | some ref =>
      if expansion.met.contains ref.key then expansion
      else
        let met := ref.key :: expansion.met
        if ref.rule.regex?.isSome then { met, found := ref :: expansion.found }
        else
          match depth with
          | 0 => { expansion with met }
          | depth + 1 => library.expand depth ref.grammar ref.rule.patterns { expansion with met })
    expansion

/-- The rules with a regular expression that the patterns of a rule lead to. -/
def candidates (library : Library ρ) (ref : RuleRef ρ) : List (RuleRef ρ) :=
  (library.expand (library.ruleCount + 1) ref.grammar ref.rule.patterns {}).found.reverse

end Library

end LineScopes
