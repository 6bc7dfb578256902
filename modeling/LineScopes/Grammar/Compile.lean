import LineScopes.Grammar.BackReference
import LineScopes.Grammar.Rule
import LineScopes.Grammar.Written
import LineScopes.Halt
import LineScopes.Text.Number

/-!
# Compiling grammars

Rules are compiled into the arena from the inside out. The entries of a
repository get their places before any of them is compiled, so that they can
include each other. An include of a local name means the entry of the nearest
repository around it that has one; an include that means nothing is dropped.
-/

namespace LineScopes

inductive CompileError
  | noScopeName
  | badRegex (pattern message : String)
  deriving DecidableEq, Repr

namespace Compile

/-- The repositories around a rule, the innermost first. -/
abbrev Scopes := List (List (String × RuleId))

def Scopes.lookup : Scopes → String → Option RuleId
  | [], _ => none
  | entries :: outer, name => (entries.lookup name).orElse fun _ => Scopes.lookup outer name

/-- The rule arena is the state. -/
abbrev Build (ρ : Type) := StateT (Array (Rule ρ)) (Except (Halt CompileError))

def push (rule : Rule ρ) : Build ρ RuleId := fun rules => .ok (rules.size, rules.push rule)

def set (id : RuleId) (rule : Rule ρ) : Build ρ Unit := fun rules =>
  .ok ((), rules.setIfInBounds id rule)

def regex (engine : Engine ρ) (source : String) : Build ρ ρ :=
  match engine.compile source with
  | .ok regex => return regex
  | .error message => throw (.error (.badRegex source message))

def endPattern (engine : Engine ρ) (source : String) : Build ρ (EndPattern ρ) :=
  if BackReference.isIn source then return .dynamic source
  else .static <$> regex engine source

def include? (scopes : Scopes) (reference : String) : Option PatternRef :=
  match reference.toList with
  | ['$', 's', 'e', 'l', 'f'] => some .self
  | ['$', 'b', 'a', 's', 'e'] => some .base
  | '#' :: name => (scopes.lookup (String.ofList name)).map .rule
  | _ =>
    match Text.splitOnce '#' reference with
    | some (scope, rule) => some (.external scope (some rule))
    | none => some (.external reference none)

/-- A table from zero up to a group number must fit into the addresses of 64 bits. -/
def maxGroups : Nat := 0x7FFFFFFFFFFFFFF

def reserve : List (String × Written.Rule) → Build ρ (List (String × RuleId))
  | [] => return []
  | (name, _) :: rest => do
    let id ← push .placeholder
    return (name, id) :: (← reserve rest)

/-- Compiles capture rules in the order of their group numbers. -/
def runCaptures : List (Nat × Build ρ (Rule ρ)) → Build ρ Captures
  | [] => return []
  | (number, build) :: rest => do
    let id ← push (← build)
    let captures ← runCaptures rest
    return if (captures.lookup number).isSome then captures else (number, id) :: captures

def captures (builds : List (Nat × Build ρ (Rule ρ))) : Build ρ Captures :=
  let ordered := builds.mergeSort fun a b => a.1 ≤ b.1
  match ordered.getLast? with
  | some (number, _) =>
    if number < maxGroups then runCaptures ordered else throw (.crash (.hugeGroup number))
  | none => return []

/-- A begin rule that is not told where to end never does. -/
def neverEnds : String := "(?!)"

mutual

def rule (engine : Engine ρ) (outer : Scopes) : Written.Rule → Build ρ (Rule ρ)
  | ⟨name, contentName, matching, opening, closing, continuing, reference, shared, openingCaptures,
      closingCaptures, continuingCaptures, inner, repository, closingLast⟩ => do
    let scopes ← do
      if repository.isEmpty then pure outer
      else
        let scopes := (← reserve repository) :: outer
        fill engine scopes repository
        pure scopes
    let sharedBuilds := captureBuilds engine scopes shared
    let capturesOf (builds : List (Nat × Build ρ (Rule ρ))) (own : List (String × Written.Rule)) :=
      captures (if own.isEmpty then sharedBuilds else builds)
    match matching, opening, continuing with
    | some source, _, _ =>
      return .matching name (← regex engine source) (← captures sharedBuilds)
    | none, some opening, some continuing =>
      return .beginWhile name contentName (← regex engine opening) (← endPattern engine continuing)
        (← capturesOf (captureBuilds engine scopes openingCaptures) openingCaptures)
        (← capturesOf (captureBuilds engine scopes continuingCaptures) continuingCaptures)
        (← patterns engine scopes inner)
    | none, some opening, none =>
      return .beginEnd name contentName (← regex engine opening)
        (← endPattern engine (closing.getD neverEnds))
        (← capturesOf (captureBuilds engine scopes openingCaptures) openingCaptures)
        (← capturesOf (captureBuilds engine scopes closingCaptures) closingCaptures)
        (← patterns engine scopes inner) closingLast
    | none, none, _ =>
      let included := (reference.bind (include? scopes)).toList
      return .group name (included ++ (← patterns engine scopes inner))

/-- Compiles the entries of a repository into the places reserved for them. -/
def fill (engine : Engine ρ) (scopes : Scopes) : List (String × Written.Rule) → Build ρ Unit
  | [] => return
  | (name, written) :: rest => do
    match scopes.head?.bind (·.lookup name) with
    | some id => set id (← rule engine scopes written)
    | none => pure ()
    fill engine scopes rest

/-- An entry that is nothing but an include becomes a reference; others become rules. -/
def patterns (engine : Engine ρ) (scopes : Scopes) : List Written.Rule → Build ρ (List PatternRef)
  | [] => return []
  | written :: rest => do
    let reference := if written.matching.isNone ∧ written.opening.isNone ∧ written.patterns.isEmpty
      then written.reference else none
    match reference with
    | some reference =>
      return (include? scopes reference).toList ++ (← patterns engine scopes rest)
    | none =>
      let id ← push (← rule engine scopes written)
      return .rule id :: (← patterns engine scopes rest)

/-- How to compile each capture rule whose key is a group number. -/
def captureBuilds (engine : Engine ρ) (scopes : Scopes) :
    List (String × Written.Rule) → List (Nat × Build ρ (Rule ρ))
  | [] => []
  | (key, written) :: rest =>
    match Text.number? key.toList with
    | some number => (number, rule engine scopes written) :: captureBuilds engine scopes rest
    | none => captureBuilds engine scopes rest

end

def top (engine : Engine ρ) (written : Written.Grammar) :
    Build ρ (RuleId × List (String × RuleId)) := do
  let entries ← reserve written.repository
  fill engine [entries] written.repository
  let root ← push (.group none (← patterns engine [entries] written.patterns))
  return (root, entries)

end Compile

def Grammar.compile (engine : Engine ρ) (written : Written.Grammar) :
    Except (Halt CompileError) (Grammar ρ) := do
  let some scopeName := written.scopeName | throw (.error .noScopeName)
  let ((root, repository), rules) ← Compile.top engine written #[]
  return { scopeName, name := written.name, rules, root, repository }

end LineScopes
