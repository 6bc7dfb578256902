import Mathlib.Data.Set.Function
import LineScopes.Grammar.Rule

/-!
# Renamed rules

Two grammars may have the same rules in other places of their arenas. Then
there is a renaming of the places that takes each rule of the one to a rule of
the other, whose captures and patterns lead to renamed places.
-/

namespace LineScopes

def PatternRef.rename (f : RuleId → RuleId) : PatternRef → PatternRef
  | .rule id => .rule (f id)
  | .self => .self
  | .base => .base
  | .external scope name => .external scope name

/-- The place in the grammar's own arena that a pattern refers to. -/
def PatternRef.id? : PatternRef → Option RuleId
  | .rule id => some id
  | .self | .base | .external .. => none

def Captures.rename (f : RuleId → RuleId) (captures : Captures) : Captures :=
  captures.map fun (group, id) => (group, f id)

theorem Captures.rename_cons (f : RuleId → RuleId) (group : Nat) (id : RuleId) (rest : Captures) :
    Captures.rename f ((group, id) :: rest) = (group, f id) :: rest.rename f := rfl

theorem lookup_map_snd [BEq α] (f : β → γ) (entries : List (α × β)) (key : α) :
    (entries.map fun entry => (entry.1, f entry.2)).lookup key = (entries.lookup key).map f := by
  induction entries with
  | nil => rfl
  | cons entry rest ih =>
    obtain ⟨first, value⟩ := entry
    simp only [List.map_cons, List.lookup_cons]
    cases key == first
    · exact ih
    · rfl

theorem Captures.lookup_rename (f : RuleId → RuleId) (captures : Captures) (group : Nat) :
    (captures.rename f).lookup group = (captures.lookup group).map f :=
  lookup_map_snd f captures group

namespace Rule

def rename (f : RuleId → RuleId) : Rule ρ → Rule ρ
  | .matching name regex captures => .matching name regex (captures.rename f)
  | .beginEnd name contentName opening closing openingCaptures closingCaptures patterns
      closingLast =>
    .beginEnd name contentName opening closing (openingCaptures.rename f)
      (closingCaptures.rename f) (patterns.map (·.rename f)) closingLast
  | .beginWhile name contentName opening condition openingCaptures conditionCaptures patterns =>
    .beginWhile name contentName opening condition (openingCaptures.rename f)
      (conditionCaptures.rename f) (patterns.map (·.rename f))
  | .group name patterns => .group name (patterns.map (·.rename f))

variable (f : RuleId → RuleId) (rule : Rule ρ)

@[simp] theorem name_rename : (rule.rename f).name = rule.name := by cases rule <;> rfl

@[simp] theorem contentName_rename : (rule.rename f).contentName = rule.contentName := by
  cases rule <;> rfl

@[simp] theorem patterns_rename : (rule.rename f).patterns = rule.patterns.map (·.rename f) := by
  cases rule <;> rfl

@[simp] theorem regex?_rename : (rule.rename f).regex? = rule.regex? := by cases rule <;> rfl

@[simp] theorem closing?_rename : (rule.rename f).closing? = rule.closing? := by
  cases rule <;> rfl

@[simp] theorem condition?_rename : (rule.rename f).condition? = rule.condition? := by
  cases rule <;> rfl

@[simp] theorem closingLast_rename : (rule.rename f).closingLast = rule.closingLast := by
  cases rule <;> rfl

@[simp] theorem closingCaptures_rename :
    (rule.rename f).closingCaptures = rule.closingCaptures.rename f := by
  cases rule <;> rfl

@[simp] theorem conditionCaptures_rename :
    (rule.rename f).conditionCaptures = rule.conditionCaptures.rename f := by
  cases rule <;> rfl

/-- The captures of the match, or of the begin match. -/
def openingCaptures : Rule ρ → Captures
  | .matching _ _ captures | .beginEnd _ _ _ _ captures .. | .beginWhile _ _ _ _ captures .. =>
    captures
  | .group .. => []

@[simp] theorem openingCaptures_rename :
    (rule.rename f).openingCaptures = rule.openingCaptures.rename f := by
  cases rule <;> rfl

/-- The places that the captures and the patterns of a rule lead to. -/
def children (rule : Rule ρ) : List RuleId :=
  (rule.openingCaptures ++ rule.closingCaptures ++ rule.conditionCaptures).map (·.2) ++
    rule.patterns.filterMap PatternRef.id?

theorem children_rename : (rule.rename f).children = rule.children.map f := by
  have hpatterns : (rule.patterns.map (·.rename f)).filterMap PatternRef.id? =
      (rule.patterns.filterMap PatternRef.id?).map f := by
    rw [List.filterMap_map, List.map_filterMap]
    congr
    funext pattern
    cases pattern <;> rfl
  simp only [children, patterns_rename, hpatterns, List.map_append]
  simp [Captures.rename, Function.comp_def]

end Rule

namespace Grammar

/-- The rules that the top level of a grammar and its repository lead to. -/
inductive Reaches (grammar : Grammar ρ) : RuleId → Prop
  | root : grammar.Reaches grammar.root
  | entry {name : String} {id : RuleId} : grammar.repositoryRule name = some id → grammar.Reaches id
  | child {parent id : RuleId} :
    grammar.Reaches parent → id ∈ (grammar.rule parent).children → grammar.Reaches id

/-- The second grammar has each rule of the first one in another place. -/
structure Renamed (f : RuleId → RuleId) (grammar other : Grammar ρ) : Prop where
  injective : Function.Injective f
  scopeName : other.scopeName = grammar.scopeName
  name : other.name = grammar.name
  size : other.rules.size = grammar.rules.size
  root : other.root = f grammar.root
  rule (id : RuleId) : other.rule (f id) = (grammar.rule id).rename f
  repositoryRule (name : String) :
    other.repositoryRule name = (grammar.repositoryRule name).map f

namespace Renamed

variable {f : RuleId → RuleId} {grammar other : Grammar ρ} {id : RuleId}

theorem reaches (h : grammar.Renamed f other) (hid : grammar.Reaches id) :
    other.Reaches (f id) := by
  induction hid with
  | root => exact h.root ▸ .root
  | entry hentry => exact .entry (by rw [h.repositoryRule, hentry]; rfl)
  | child _ hmem ih =>
    refine .child ih ?_
    rw [h.rule, Rule.children_rename]
    exact List.mem_map_of_mem hmem

theorem exists_of_reaches (h : grammar.Renamed f other) (hid : other.Reaches id) :
    ∃ origin, grammar.Reaches origin ∧ f origin = id := by
  induction hid with
  | root => exact ⟨grammar.root, .root, h.root.symm⟩
  | entry hentry =>
    rw [h.repositoryRule] at hentry
    obtain ⟨id, hid, rfl⟩ := Option.map_eq_some_iff.mp hentry
    exact ⟨id, .entry hid, rfl⟩
  | child _ hmem ih =>
    obtain ⟨parent, hparent, rfl⟩ := ih
    rw [h.rule, Rule.children_rename] at hmem
    obtain ⟨id, hid, rfl⟩ := List.mem_map.mp hmem
    exact ⟨id, .child hparent hid, rfl⟩

theorem bijOn (h : grammar.Renamed f other) :
    Set.BijOn f {id | grammar.Reaches id} {id | other.Reaches id} :=
  ⟨fun _ => h.reaches, h.injective.injOn, fun _ => h.exists_of_reaches⟩

end Renamed

end Grammar

end LineScopes
