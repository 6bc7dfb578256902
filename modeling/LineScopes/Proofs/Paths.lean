import Mathlib.Data.List.Infix
import LineScopes.Proofs.Drafts

/-!
# Paths into documents

A rule of a grammar document is found by the parts that lead to it from the top
level. The repositories around it are those along its path, and a name means
the entry of the nearest of them that has one. With a place in the arena for
each path, this says what every compiled rule has to be.
-/

namespace LineScopes.Written

-- ---------------------------------------------------------------------------
-- The parts of a rule
-- ---------------------------------------------------------------------------

/-- How to get from a rule to one within it. -/
inductive Part
  | entry (name : String)
  /-- A rule for a group, of the second match or else of the first, by its rank in the order of
  the groups. -/
  | capture (second : Bool) (rank : Nat)
  /-- An entry of the patterns that becomes a rule. -/
  | pattern (index : Nat)
  /-- An entry of the patterns that is nothing but an include. -/
  | reference (index : Nat)
  deriving DecidableEq

/-- The parts that lead to a rule from the top level, the last one first. -/
abbrev Path := List Part

/-- The text of a rule that is nothing but an include. -/
def Rule.onlyInclude? (rule : Rule) : Option String :=
  if rule.matching.isNone ∧ rule.opening.isNone ∧ rule.patterns.isEmpty then rule.reference
  else none

/-- The include of a rule that has no match. -/
def Rule.ownInclude? (rule : Rule) : Option String :=
  if rule.matching.isNone ∧ rule.opening.isNone then rule.reference else none

/-- The patterns of a rule. One that is a single match has none. -/
def Rule.inner (rule : Rule) : List Rule := if rule.matching.isSome then [] else rule.patterns

/-- The rules among captures whose keys are group numbers, in the order of these. -/
def numbered (captures : List (String × Rule)) : List (Nat × Rule) :=
  (captures.filterMap fun (key, rule) => (Text.number? key.toList).map (·, rule)).mergeSort
    fun a b => a.1 ≤ b.1

/-- The captures in force for the first match of a rule, or for the second one. -/
def Rule.captureEntries (rule : Rule) (second : Bool) : List (String × Rule) :=
  match rule.matching, rule.opening, rule.continuing with
  | some _, _, _ => if second then [] else rule.captures
  | none, some _, some _ =>
    orShared (if second then rule.continuingCaptures else rule.openingCaptures)
  | none, some _, none => orShared (if second then rule.closingCaptures else rule.openingCaptures)
  | none, none, _ => []
where
  orShared (own : List (String × Rule)) : List (String × Rule) :=
    if own.isEmpty then rule.captures else own

def Rule.capturesFor (rule : Rule) (second : Bool) : List (Nat × Rule) :=
  numbered (rule.captureEntries second)

def Rule.part? (rule : Rule) : Part → Option Rule
  | .entry name => rule.repository.lookup name
  | .capture second rank => (rule.capturesFor second)[rank]?.map (·.2)
  | .pattern index => rule.inner[index]?.filter (·.onlyInclude?.isNone)
  | .reference index => rule.inner[index]?.filter (·.onlyInclude?.isSome)

theorem Rule.Named.nodup {rule : Rule} (h : rule.Named) : (rule.repository.map (·.1)).Nodup := by
  cases rule
  exact h.1

theorem EntriesNamed.of_mem {entries : List (String × Rule)} (h : EntriesNamed entries) :
    ∀ entry ∈ entries, entry.2.Named := by
  induction entries with
  | nil => nofun
  | cons entry rest ih => exact List.forall_mem_cons.mpr ⟨h.1, ih h.2⟩

theorem RulesNamed.of_mem {rules : List Rule} (h : RulesNamed rules) :
    ∀ rule ∈ rules, rule.Named := by
  induction rules with
  | nil => nofun
  | cons rule rest ih => exact List.forall_mem_cons.mpr ⟨h.1, ih h.2⟩

theorem Rule.Named.captureEntries {rule : Rule} (h : rule.Named) (second : Bool) :
    EntriesNamed (rule.captureEntries second) := by
  obtain ⟨_, _, matching, opening, _, continuing, _, _, _, _, _, _, _, _⟩ := rule
  obtain ⟨-, -, hshared, hopening, hclosing, hcontinuing, -⟩ := h
  cases matching <;> cases opening <;> cases continuing <;> cases second <;>
    simp only [Rule.captureEntries, Rule.captureEntries.orShared, if_true, if_false,
      Bool.false_eq_true] <;> (try split) <;> first | assumption | trivial

theorem Rule.Named.part {rule inner : Rule} (h : rule.Named) {part : Part}
    (hpart : rule.part? part = some inner) : inner.Named := by
  have hpattern : ∀ (index : Nat) entry, rule.inner[index]? = some entry → entry.Named := by
    intro index entry hentry
    obtain ⟨_, _, matching, _, _, _, _, _, _, _, _, _, _, _⟩ := rule
    cases matching with
    | some source => simp [Rule.inner] at hentry
    | none => exact h.2.2.2.2.2.2.of_mem entry (List.mem_of_getElem? hentry)
  cases part with
  | entry name =>
    obtain ⟨before, after, hentries, -⟩ := List.lookup_eq_some_iff.mp hpart
    have hmem : (name, inner) ∈ rule.repository := by simp [hentries]
    cases rule
    exact h.2.1.of_mem _ hmem
  | capture second rank =>
    obtain ⟨capture, hcapture, rfl⟩ := Option.map_eq_some_iff.mp hpart
    have hmem := (List.mergeSort_perm ..).mem_iff.mp (List.mem_of_getElem? hcapture)
    obtain ⟨⟨key, rule⟩, hentry, hnumber⟩ := List.mem_filterMap.mp hmem
    obtain ⟨_, -, rfl⟩ := Option.map_eq_some_iff.mp hnumber
    exact (h.captureEntries second).of_mem _ hentry
  | pattern index =>
    exact hpattern index inner (Option.filter_eq_some_iff.mp hpart).1
  | reference index =>
    exact hpattern index inner (Option.filter_eq_some_iff.mp hpart).1

-- ---------------------------------------------------------------------------
-- Paths
-- ---------------------------------------------------------------------------

def Rule.at? (top : Rule) : Path → Option Rule
  | [] => some top
  | part :: path => (top.at? path).bind (·.part? part)

/-- An entry that is nothing but an include becomes no rule, and neither does what is within it. -/
def Path.IsCompiled (path : Path) : Prop := ∀ index, .reference index ∉ path

/-- The entry that a name means where a path leads: that of the nearest repository around the rule,
its own one included. -/
def Rule.resolve? (top : Rule) (path : Path) (name : String) : Option Path :=
  (path.tails.find? fun around => (top.at? (.entry name :: around)).isSome).map (.entry name :: ·)

theorem Rule.resolve?_nil (top : Rule) (name : String) :
    top.resolve? [] name =
      if (top.at? [.entry name]).isSome then some [.entry name] else none := by
  simp only [Rule.resolve?, List.tails, List.find?_cons, List.find?_nil]
  cases (top.at? [.entry name]).isSome <;> rfl

theorem Rule.resolve?_cons (top : Rule) (part : Part) (path : Path) (name : String) :
    top.resolve? (part :: path) name =
      if (top.at? (.entry name :: part :: path)).isSome then some (.entry name :: part :: path)
      else top.resolve? path name := by
  simp only [Rule.resolve?, List.tails, List.find?_cons]
  cases (top.at? (.entry name :: part :: path)).isSome <;> rfl

section

variable {top rule : Rule} {path target : Path} {name : String}

theorem Rule.resolve?_eq_some (h : top.resolve? path name = some target) :
    (top.at? target).isSome ∧ ∃ around, around <:+ path ∧ target = .entry name :: around := by
  obtain ⟨around, haround, rfl⟩ := Option.map_eq_some_iff.mp h
  refine ⟨by simpa using List.find?_some haround, around, ?_, rfl⟩
  exact (List.mem_tails ..).mp (List.mem_of_find?_eq_some haround)

theorem Path.IsCompiled.of_suffix {around : Path} (h : path.IsCompiled)
    (hsuffix : around <:+ path) : around.IsCompiled :=
  fun index hmem => h index (hsuffix.mem hmem)

theorem Rule.resolve?_isCompiled (h : path.IsCompiled)
    (htarget : top.resolve? path name = some target) : target.IsCompiled := by
  obtain ⟨-, around, haround, rfl⟩ := Rule.resolve?_eq_some htarget
  intro index hmem
  rcases List.mem_cons.mp hmem with hentry | hmem
  · cases hentry
  · exact h.of_suffix haround index hmem

/-- A repository of its own is all that makes a difference between where a rule is and the rule
around it. -/
theorem Rule.resolve?_eq_cons_iff {part : Part} (hrule : top.at? (part :: path) = some rule) :
    top.resolve? path name = top.resolve? (part :: path) name ↔
      rule.repository.lookup name = none := by
  have hentry : top.at? (.entry name :: part :: path) = rule.repository.lookup name := by
    rw [Rule.at?, hrule]
    rfl
  rw [Rule.resolve?_cons, hentry]
  cases rule.repository.lookup name with
  | none => simp
  | some entry =>
    simp only [Option.isSome_some, if_true, reduceCtorEq, iff_false]
    intro hsame
    obtain ⟨-, around, haround, htarget⟩ := Rule.resolve?_eq_some hsame
    obtain rfl := (List.cons.inj htarget).2
    have hlength := haround.length_le
    rw [List.length_cons] at hlength
    omega

end

-- ---------------------------------------------------------------------------
-- Compiled rules
-- ---------------------------------------------------------------------------

/-- The fields of a rule that refer to no other rules. -/
def Rule.shape (engine : Engine ρ) (rule : Rule) : Except (Halt CompileError) (Shape ρ) :=
  match rule.matching, rule.opening, rule.continuing with
  | some source, _, _ => do
    let regex ← Draft.regex engine source
    return .matching rule.name regex
  | none, some opening, some continuing => do
    let opening ← Draft.regex engine opening
    let condition ← Draft.endPattern engine continuing
    return .beginWhile rule.name rule.contentName opening condition
  | none, some opening, none => do
    let opening ← Draft.regex engine opening
    let closing ← Draft.endPattern engine (rule.closing.getD Compile.neverEnds)
    return .beginEnd rule.name rule.contentName opening closing rule.closingLast
  | none, none, _ => return .group rule.name

/-- The last of the rules for each group. -/
def lastOfEach : List (Nat × RuleId) → Captures
  | [] => []
  | (group, id) :: rest =>
    if ((lastOfEach rest).lookup group).isSome then lastOfEach rest
    else (group, id) :: lastOfEach rest

section

variable (top : Rule) (layout : Path → RuleId) (path : Path) (rule : Rule)

/-- What an include means where a path leads. -/
def Rule.meaning? (text : String) : Option PatternRef :=
  match text.toList with
  | '#' :: name =>
    (top.resolve? path (String.ofList name)).map fun entry => .rule (layout entry)
  | _ => Compile.include? [] text

/-- What the entries of the patterns come to, each on its own. -/
def Rule.contributions : List (List PatternRef) :=
  rule.inner.mapIdx fun index entry =>
    match entry.onlyInclude? with
    | some text => (top.meaning? layout path text).toList
    | none => [.rule (layout (.pattern index :: path))]

def Rule.compiledPatterns : List PatternRef :=
  (rule.ownInclude?.bind (top.meaning? layout path)).toList ++
    (top.contributions layout path rule).flatten

def Rule.compiledCaptures (second : Bool) : Captures :=
  lastOfEach <| (rule.capturesFor second).mapIdx fun rank capture =>
    (capture.1, layout (.capture second rank :: path))

/-- The rule that is to be in the arena for the one that a path leads to. -/
def Rule.compiled (shape : Shape ρ) : LineScopes.Rule ρ :=
  shape.rule (rule.compiledCaptures layout path false)
    (rule.compiledCaptures layout path true) (top.compiledPatterns layout path rule)

end

/-- Each rule of a document that is compiled has a place in the arena, and the arena has no other
rules. -/
structure Grammar.Lays (engine : Engine ρ) (written : Grammar) (layout : Path → RuleId)
    (grammar : LineScopes.Grammar ρ) : Prop where
  root : grammar.root = layout []
  repository : grammar.repository =
    written.repository.map fun (name, _) => (name, layout [.entry name])
  rule : ∀ path rule, written.body.at? path = some rule → path.IsCompiled →
    ∃ shape, rule.shape engine = .ok shape ∧
      grammar.rules[layout path]? = some (written.body.compiled layout path rule shape)
  covers : ∀ id < grammar.rules.size, ∃ path rule, written.body.at? path = some rule ∧
    path.IsCompiled ∧ layout path = id

end LineScopes.Written
