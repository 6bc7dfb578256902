import LineScopes.Grammar.Rule

/-!
# Rules in the order of their discovery

The places of rules in their arena depend on the order in which they were
compiled. Listing them as they are met from the top level on gives an order
that does not.
-/

namespace LineScopes

def PatternRef.local? : PatternRef → Option RuleId
  | .rule id => some id
  | _ => none

/-- The rules that a rule refers to, in the order of its parts. -/
def Rule.mentions : Rule ρ → List RuleId
  | .matching _ _ captures => captures.map (·.2)
  | .beginEnd _ _ _ _ openingCaptures closingCaptures patterns _ =>
    patterns.filterMap PatternRef.local? ++ openingCaptures.map (·.2) ++ closingCaptures.map (·.2)
  | .beginWhile _ _ _ _ openingCaptures conditionCaptures patterns =>
    patterns.filterMap PatternRef.local? ++ openingCaptures.map (·.2) ++ conditionCaptures.map (·.2)
  | .group _ patterns => patterns.filterMap PatternRef.local?

namespace Grammar

/-- Adds what the pending rules lead to. -/
def follow (grammar : Grammar ρ) : (fuel : Nat) → (listed pending : List RuleId) → List RuleId
  | 0, listed, _ | _, listed, [] => listed
  | fuel + 1, listed, id :: pending =>
    let found := (grammar.rule id).mentions.eraseDups.filter (¬ listed.contains ·)
    grammar.follow fuel (listed ++ found) (pending ++ found)

/-- Adds a rule and what it leads to. -/
def discover (grammar : Grammar ρ) (listed : List RuleId) (id : RuleId) : List RuleId :=
  if listed.contains id then listed
  else grammar.follow (grammar.rules.size + 1) (listed ++ [id]) [id]

def repositoryByName (grammar : Grammar ρ) : List (String × RuleId) :=
  grammar.repository.mergeSort fun a b => a.1 ≤ b.1

/-- The rules that the top level leads to, then those that only the repository does. -/
def outline (grammar : Grammar ρ) : List RuleId :=
  (grammar.repositoryByName.map (·.2)).foldl grammar.discover (grammar.discover [] grammar.root)

end Grammar

end LineScopes
