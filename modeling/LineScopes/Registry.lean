import LineScopes.Grammar.Rule

/-!
# Registered grammars

A registry knows grammars by their scope names. A grammar takes the place of
an earlier one of the same scope name.
-/

namespace LineScopes

@[ext]
structure Registry (ρ : Type) where
  grammars : List (Grammar ρ)
  distinct : grammars.Pairwise (·.scopeName ≠ ·.scopeName)

namespace Registry

def empty : Registry ρ := ⟨[], .nil⟩

def get? (registry : Registry ρ) (scope : String) : Option (Grammar ρ) :=
  registry.grammars.find? (·.scopeName = scope)

def insert (registry : Registry ρ) (grammar : Grammar ρ) : Registry ρ where
  grammars := grammar :: registry.grammars.filter (·.scopeName ≠ grammar.scopeName)
  distinct := by
    refine .cons (fun other hother => ?_) (registry.distinct.filter _)
    rw [List.mem_filter, decide_eq_true_iff] at hother
    exact hother.2.symm

def ofList (grammars : List (Grammar ρ)) : Registry ρ := grammars.foldl insert empty

def size (registry : Registry ρ) : Nat := registry.grammars.length

def scopeNames (registry : Registry ρ) : List String :=
  (registry.grammars.map (·.scopeName)).mergeSort

/-- How many rules the grammars have together. -/
def ruleCount (registry : Registry ρ) : Nat :=
  registry.grammars.foldl (fun count grammar => count + grammar.rules.size) 0

end Registry

end LineScopes
