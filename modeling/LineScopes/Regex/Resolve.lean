import LineScopes.Regex.Parse

/-!
# Groups and references

Where a pattern names some of its groups, the others do not capture, and
groups are no longer referred to by number. References must mean groups that
exist, a group must not be bound to call itself without end, and not every
pattern can be looked for backwards.
-/

namespace LineScopes.Regex

namespace Pattern

/-- The new number of each group that still captures. -/
abbrev Numbering := Nat → Option Nat

/-- Named groups in the order of their numbers. -/
def numbering (named : List Nat) : Numbering := fun group =>
  ((named.mergeSort).findIdx? (· = group)).map (· + 1)

/-- Keeps the groups that the numbering has, under their new numbers. -/
def renumber (numbers : Numbering) : Pattern → Except Error Pattern
  | .capture group isNamed body => do
    let body ← body.renumber numbers
    match numbers group with
    | some n => return .capture n isNamed body
    | none => return .enclosed body
  | .backReference groups byName ignoreCase =>
    if byName then return .backReference (groups.filterMap numbers) byName ignoreCase
    else throw .numberedReference
  | .ifSet groups byName =>
    if byName then return .ifSet (groups.filterMap numbers) byName else throw .numberedReference
  | .call (.number n) => if n = 0 then return .call (.number n) else throw .numberedReference
  | .seq first second => return .seq (← first.renumber numbers) (← second.renumber numbers)
  | .alt first second => return .alt (← first.renumber numbers) (← second.renumber numbers)
  | .enclosed body => return .enclosed (← body.renumber numbers)
  | .repeated low high greed body => return .repeated low high greed (← body.renumber numbers)
  | .atomic body => return .atomic (← body.renumber numbers)
  | .ahead isThere body => return .ahead isThere (← body.renumber numbers)
  | .behind isThere body => return .behind isThere (← body.renumber numbers)
  | .conditional condition yes no =>
    return .conditional (← condition.renumber numbers) (← yes.renumber numbers)
      (← no.renumber numbers)
  | .absent barrier body => return .absent (← barrier.renumber numbers) (← body.renumber numbers)
  | .stopper barrier => return .stopper (← barrier.renumber numbers)
  | pattern => return pattern

/-- Every part of a pattern, itself included. -/
def parts : Pattern → List Pattern
  | .capture group isNamed body => .capture group isNamed body :: body.parts
  | .seq first second => .seq first second :: (first.parts ++ second.parts)
  | .alt first second => .alt first second :: (first.parts ++ second.parts)
  | .enclosed body => .enclosed body :: body.parts
  | .repeated low high greed body => .repeated low high greed body :: body.parts
  | .atomic body => .atomic body :: body.parts
  | .ahead isThere body => .ahead isThere body :: body.parts
  | .behind isThere body => .behind isThere body :: body.parts
  | .conditional condition yes no =>
    .conditional condition yes no :: (condition.parts ++ yes.parts ++ no.parts)
  | .absent barrier body => .absent barrier body :: (barrier.parts ++ body.parts)
  | .stopper barrier => .stopper barrier :: barrier.parts
  | pattern => [pattern]

/-- The groups that a pattern refers back to. -/
def references : Pattern → List Nat
  | .backReference groups .. | .ifSet groups _ => groups
  | _ => []

/-- The body of each group, and the whole pattern as group zero. -/
def bodies (pattern : Pattern) : List (Nat × Pattern) :=
  (0, pattern) :: pattern.parts.filterMap fun
    | .capture group _ body => some (group, body)
    | _ => none

/-- Whether a pattern may stand in a look-behind, in one that must hold or in one that must
not. -/
def fitsBehind (isThere : Bool) : Pattern → Bool
  | .ahead .. | .anchor .textEnd | .anchor .lastLineEnd | .stopper _ | .clearStopper => false
  | .call _ => isThere
  | .capture _ _ body => isThere && body.fitsBehind isThere
  | .behind inner body => (inner || !isThere) && body.fitsBehind isThere
  | .enclosed body | .repeated _ _ _ body | .atomic body => body.fitsBehind isThere
  | .seq first second | .alt first second | .absent first second =>
    first.fitsBehind isThere && second.fitsBehind isThere
  | .conditional condition yes no =>
    condition.fitsBehind isThere && yes.fitsBehind isThere && no.fitsBehind isThere
  | _ => true

/-- What is wrong with a part of a pattern that has so many groups. -/
def fault? (groups : Nat) : Pattern → Option Error
  | .behind isThere body => if body.fitsBehind isThere then none else some .badLookBehind
  | part => if part.references.any (groups < ·) then some .badBackReference else none

/-! ## Calls -/

/-- Replaces names by the numbers of their groups. -/
def resolveCalls (names : List (String × Nat)) (groups : Nat) : Pattern → Except Error Pattern
  | .call (.number n) =>
    if n ≤ groups then return .call (.number n) else throw (.unknownGroup (Nat.repr n))
  | .call (.name name) =>
    match names.filter fun entry => entry.1 = name with
    | [(_, n)] => return .call (.number n)
    | [] => throw (.unknownName name)
    | _ => throw .badBackReference
  | .capture group isNamed body => return .capture group isNamed (← body.resolveCalls names groups)
  | .seq first second =>
    return .seq (← first.resolveCalls names groups) (← second.resolveCalls names groups)
  | .alt first second =>
    return .alt (← first.resolveCalls names groups) (← second.resolveCalls names groups)
  | .enclosed body => return .enclosed (← body.resolveCalls names groups)
  | .repeated low high greed body =>
    return .repeated low high greed (← body.resolveCalls names groups)
  | .atomic body => return .atomic (← body.resolveCalls names groups)
  | .ahead isThere body => return .ahead isThere (← body.resolveCalls names groups)
  | .behind isThere body => return .behind isThere (← body.resolveCalls names groups)
  | .conditional condition yes no =>
    return .conditional (← condition.resolveCalls names groups)
      (← yes.resolveCalls names groups) (← no.resolveCalls names groups)
  | .absent barrier body =>
    return .absent (← barrier.resolveCalls names groups) (← body.resolveCalls names groups)
  | .stopper barrier => return .stopper (← barrier.resolveCalls names groups)
  | pattern => return pattern

/-- How a pattern leads to a call: on every way through it, and on some way that has read
nothing before. -/
structure Calls where
  always : Bool
  first : Bool

/-- How matching the pattern calls a group; the calls of other groups are given. -/
def callsWith (of : Nat → Calls) : Pattern → Calls
  | .call (.number n) => of n
  | .capture _ _ body | .enclosed body | .atomic body | .ahead _ body | .behind _ body
  | .stopper body => body.callsWith of
  | .seq a b =>
    let (ca, cb) := (a.callsWith of, b.callsWith of)
    ⟨ca.always || cb.always, ca.first || (a.width.1 = 0 && cb.first)⟩
  | .alt a b =>
    let (ca, cb) := (a.callsWith of, b.callsWith of)
    ⟨ca.always && cb.always, ca.first || cb.first⟩
  | .repeated low high _ body =>
    let c := body.callsWith of
    ⟨0 < low && c.always, high ≠ some 0 && c.first⟩
  | .conditional condition yes no =>
    let (cc, cy, cn) := (condition.callsWith of, yes.callsWith of, no.callsWith of)
    ⟨cc.always || (cy.always && cn.always), cc.first || cy.first || cn.first⟩
  | .absent barrier body =>
    let (cb, c) := (barrier.callsWith of, body.callsWith of)
    ⟨cb.always || c.always, cb.first || c.first⟩
  | _ => ⟨false, false⟩

/-- How each group leads back to `goal`, through at most so many other groups. -/
def callsOf (bodies : List (Nat × Pattern)) (goal : Nat) : (depth : Nat) → Nat → Calls
  | 0, n => ⟨n = goal, n = goal⟩
  | depth + 1, n =>
    if n = goal then ⟨true, true⟩
    else match bodies.lookup n with
      | some body => body.callsWith (callsOf bodies goal depth)
      | none => ⟨false, false⟩

def isEndless (bodies : List (Nat × Pattern)) (entry : Nat × Pattern) : Bool :=
  let calls := entry.2.callsWith (callsOf bodies entry.1 bodies.length)
  calls.always || calls.first

end Pattern

/-- A pattern ready to be matched. -/
structure Compiled where
  pattern : Pattern
  groups : Nat
  bodies : List (Nat × Pattern)
  deriving Inhabited

def compile (source : String) : Except Error Compiled := do
  let (pattern, state) ← Parser.whole source
  let numbers := Pattern.numbering (state.names.map Prod.snd)
  let isNamed := !state.names.isEmpty
  let pattern ← if isNamed then pattern.renumber numbers else pure pattern
  let groups := if isNamed then state.names.length else state.groups
  let names := state.names.filterMap fun (name, n) => (numbers n).map (name, ·)
  let pattern ← pattern.resolveCalls names groups
  let bodies := pattern.bodies
  let isCalled := pattern.parts.any fun
    | .call _ => true
    | _ => false
  if isCalled ∧ bodies.any (Pattern.isEndless bodies) then throw .endlessRecursion
  if let some fault := pattern.parts.findSome? (·.fault? groups) then throw fault
  return { pattern, groups, bodies }

end LineScopes.Regex
