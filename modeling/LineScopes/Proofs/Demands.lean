import LineScopes.Proofs.FirstErrors
import LineScopes.Proofs.Paths
import LineScopes.Proofs.Stages

/-!
# What compiling a grammar asks for

To compile a rule is to ask for regular expressions and for tables of capture
groups, one after the other and first of all for what its repository needs. The
first demand that is not met is the error of the whole grammar, and without one
the grammar is compiled. The demands are those of the rules that are reached
from the top level.
-/

namespace LineScopes

/-- What can go wrong while a rule is compiled. -/
inductive Demand
  | regex (source : String)
  /-- A table of capture groups from zero up to a number. -/
  | table (group : Nat)
  deriving DecidableEq, Repr

def Demand.check (engine : Engine ρ) : Demand → Except (Halt CompileError) Unit
  | regex source =>
    match engine.compile source with
    | .ok _ => .ok ()
    | .error message => .error (.error (.badRegex source message))
  | table group => if group < Compile.maxGroups then .ok () else .error (.crash (.hugeGroup group))

namespace Written

-- ---------------------------------------------------------------------------
-- Rules that are reached
-- ---------------------------------------------------------------------------

/-- The rules within a rule that are compiled with it. -/
inductive Rule.Has (rule : Rule) : Rule → Prop
  | entry {name inner} : (name, inner) ∈ rule.repository → Has rule inner
  | capture {second key inner number} : (key, inner) ∈ rule.captureEntries second →
      Text.number? key.toList = some number → Has rule inner
  /-- An entry of the patterns that is nothing but an include becomes no rule. -/
  | pattern {inner} : inner ∈ rule.inner → inner.onlyInclude? = none → Has rule inner

inductive Rule.Reaches : Rule → Rule → Prop
  | self {rule} : Reaches rule rule
  | step {outer rule inner} : outer.Has rule → Reaches rule inner → Reaches outer inner

/-- A pattern that refers to captured text is compiled for each text anew. -/
def static (source : String) : List String :=
  if BackReference.isIn source then [] else [source]

/-- The regular expressions of a rule that are compiled with it. -/
def Rule.sources (rule : Rule) : List String :=
  match rule.matching, rule.opening, rule.continuing with
  | some source, _, _ => [source]
  | none, some opening, some continuing => opening :: static continuing
  | none, some opening, none => opening :: static (rule.closing.getD Compile.neverEnds)
  | none, none, _ => []

/-- The table of some captures comes before what their rules ask for, in the order of the
groups. -/
def tables (captures : List (Nat × List Demand)) : List Demand :=
  let ordered := captures.mergeSort fun a b => a.1 ≤ b.1
  match ordered.getLast? with
  | some (number, _) => .table number :: ordered.flatMap (·.2)
  | none => []

mutual

/-- What compiling a rule asks for, in the order in which it does. -/
def Rule.demands : Rule → List Demand
  | ⟨_, _, matching, opening, closing, continuing, _, shared, openingCaptures, closingCaptures,
      continuingCaptures, inner, repository, _⟩ =>
    let sharedDemands := captureDemands shared
    let tablesOf (captures : List (Nat × List Demand)) (own : List (String × Rule)) :=
      tables (if own.isEmpty then sharedDemands else captures)
    entryDemands repository ++
      match matching, opening, continuing with
      | some source, _, _ => .regex source :: tables sharedDemands
      | none, some opening, some continuing =>
        (opening :: static continuing).map .regex ++
          tablesOf (captureDemands openingCaptures) openingCaptures ++
          tablesOf (captureDemands continuingCaptures) continuingCaptures ++ patternDemands inner
      | none, some opening, none =>
        (opening :: static (closing.getD Compile.neverEnds)).map .regex ++
          tablesOf (captureDemands openingCaptures) openingCaptures ++
          tablesOf (captureDemands closingCaptures) closingCaptures ++ patternDemands inner
      | none, none, _ => patternDemands inner

def entryDemands : List (String × Rule) → List Demand
  | [] => []
  | (_, rule) :: rest => rule.demands ++ entryDemands rest

def patternDemands : List Rule → List Demand
  | [] => []
  | rule :: rest =>
    (if rule.onlyInclude?.isSome then [] else rule.demands) ++ patternDemands rest

def captureDemands : List (String × Rule) → List (Nat × List Demand)
  | [] => []
  | (key, rule) :: rest =>
    match Text.number? key.toList with
    | some number => (number, rule.demands) :: captureDemands rest
    | none => captureDemands rest

end

theorem entryDemands_eq (entries : List (String × Rule)) :
    entryDemands entries = entries.flatMap (·.2.demands) := by
  induction entries with
  | nil => rfl
  | cons entry rest ih => rw [entryDemands, ih, List.flatMap_cons]

theorem patternDemands_eq (rules : List Rule) :
    patternDemands rules = (rules.filter (·.onlyInclude?.isNone)).flatMap Rule.demands := by
  induction rules with
  | nil => rfl
  | cons rule rest ih =>
    rw [patternDemands, ih, List.filter_cons]
    cases rule.onlyInclude? <;> rfl

theorem captureDemands_eq (entries : List (String × Rule)) :
    captureDemands entries = (entries.filterMap fun (key, rule) =>
      (Text.number? key.toList).map (·, rule)).map fun capture =>
        (capture.1, capture.2.demands) := by
  induction entries with
  | nil => rfl
  | cons entry rest ih =>
    obtain ⟨key, rule⟩ := entry
    rw [captureDemands, ih, List.filterMap_cons]
    cases hnumber : Text.number? key.toList <;> simp only [hnumber] <;> rfl

theorem Rule.demands_eq (rule : Rule) :
    rule.demands = rule.repository.flatMap (·.2.demands) ++ rule.sources.map .regex ++
      tables (captureDemands (rule.captureEntries false)) ++
      tables (captureDemands (rule.captureEntries true)) ++
      (rule.inner.filter (·.onlyInclude?.isNone)).flatMap Rule.demands := by
  obtain ⟨name, contentName, matching, opening, closing, continuing, reference, shared,
    openingCaptures, closingCaptures, continuingCaptures, inner, repository, closingLast⟩ := rule
  rw [← patternDemands_eq, ← entryDemands_eq]
  cases matching with
  | some source =>
    simp [demands, sources, captureEntries, Rule.inner, tables, captureDemands, patternDemands]
  | none =>
    cases opening with
    | some opening =>
      cases continuing <;>
        simp [demands, sources, captureEntries, captureEntries.orShared, Rule.inner,
          apply_ite captureDemands]
    | none => simp [demands, sources, captureEntries, Rule.inner, tables, captureDemands]

theorem ordered_captureDemands (entries : List (String × Rule)) :
    (captureDemands entries).mergeSort (fun a b => a.1 ≤ b.1) =
      (numbered entries).map fun capture => (capture.1, capture.2.demands) := by
  rw [captureDemands_eq, numbered, List.map_mergeSort]
  exact fun _ _ _ _ => rfl

theorem mem_numbered {entries : List (String × Rule)} {number : Nat} {rule : Rule} :
    (number, rule) ∈ numbered entries ↔
      ∃ key, (key, rule) ∈ entries ∧ Text.number? key.toList = some number := by
  rw [numbered, (List.mergeSort_perm ..).mem_iff, List.mem_filterMap]
  constructor
  · rintro ⟨⟨key, inner⟩, hmem, hcapture⟩
    obtain ⟨_, hnumber, heq⟩ := Option.map_eq_some_iff.mp hcapture
    obtain ⟨rfl, rfl⟩ := Prod.mk.inj heq
    exact ⟨key, hmem, hnumber⟩
  · rintro ⟨key, hmem, hnumber⟩
    exact ⟨(key, rule), hmem, Option.map_eq_some_iff.mpr ⟨number, hnumber, rfl⟩⟩

/-- The greatest of the group numbers among the keys of a captures map. -/
structure IsLast (entries : List (String × Rule)) (number : Nat) : Prop where
  mem : number ∈ groupNumbers entries
  le : ∀ other ∈ groupNumbers entries, other ≤ number

theorem mem_groupNumbers {entries : List (String × Rule)} {number : Nat} :
    number ∈ groupNumbers entries ↔ ∃ rule, (number, rule) ∈ numbered entries := by
  simp only [mem_numbered, groupNumbers, List.mem_filterMap, Prod.exists]
  exact ⟨fun ⟨key, rule, h⟩ => ⟨rule, key, h⟩, fun ⟨rule, key, h⟩ => ⟨key, rule, h⟩⟩

theorem isLast_of_getLast? {entries : List (String × Rule)}
    (h : (numbered entries).getLast? = some capture) : IsLast entries capture.1 := by
  obtain ⟨before, hnumbered⟩ := List.getLast?_eq_some_iff.mp h
  have hsorted : (numbered entries).Pairwise fun a b => a.1 ≤ b.1 := Compile.pairwise_inOrder _
  rw [hnumbered, List.pairwise_append] at hsorted
  refine ⟨mem_groupNumbers.mpr ⟨capture.2, List.mem_of_getLast? h⟩, fun other hother => ?_⟩
  obtain ⟨rule, hmem⟩ := mem_groupNumbers.mp hother
  rw [hnumbered] at hmem
  rcases List.mem_append.mp hmem with hmem | hmem
  · exact hsorted.2.2 _ hmem capture List.mem_cons_self
  · rw [← List.mem_singleton.mp hmem]

theorem exists_isLast {entries : List (String × Rule)} {number : Nat}
    (h : number ∈ groupNumbers entries) : ∃ last, IsLast entries last ∧ number ≤ last := by
  obtain ⟨rule, hmem⟩ := mem_groupNumbers.mp h
  have hlast := isLast_of_getLast? (List.getLast?_eq_some_getLast (List.ne_nil_of_mem hmem))
  exact ⟨_, hlast, hlast.le _ h⟩

theorem IsLast.unique {entries : List (String × Rule)} {number other : Nat}
    (h : IsLast entries number) (h' : IsLast entries other) : number = other :=
  Nat.le_antisymm (h'.le _ h.mem) (h.le _ h'.mem)

theorem tables_captureDemands (entries : List (String × Rule)) :
    tables (captureDemands entries) = match (numbered entries).getLast? with
      | some (number, _) => .table number :: (numbered entries).flatMap (·.2.demands)
      | none => [] := by
  simp only [tables, ordered_captureDemands, List.getLast?_map, List.flatMap_map]
  cases (numbered entries).getLast? <;> rfl

theorem mem_tables {entries : List (String × Rule)} {demand : Demand} :
    demand ∈ tables (captureDemands entries) ↔
      (∃ number, IsLast entries number ∧ demand = .table number) ∨
      ∃ key rule number, (key, rule) ∈ entries ∧ Text.number? key.toList = some number ∧
        demand ∈ rule.demands := by
  rw [tables_captureDemands]
  cases hlast : (numbered entries).getLast? with
  | none =>
    have hnone : ∀ number rule, (number, rule) ∉ numbered entries := by
      simp [List.getLast?_eq_none_iff.mp hlast]
    simp only [List.not_mem_nil, false_iff, not_or]
    constructor
    · rintro ⟨number, hnumber, -⟩
      obtain ⟨rule, hmem⟩ := mem_groupNumbers.mp hnumber.mem
      exact hnone number rule hmem
    · rintro ⟨key, rule, number, hmem, hnumber, -⟩
      exact hnone number rule (mem_numbered.mpr ⟨key, hmem, hnumber⟩)
  | some capture =>
    have hnumber := isLast_of_getLast? hlast
    rw [List.mem_cons, List.mem_flatMap]
    refine or_congr ⟨fun h => ⟨_, hnumber, h⟩, fun ⟨_, h, heq⟩ => heq.trans ?_⟩ ?_
    · rw [h.unique hnumber]
    · constructor
      · rintro ⟨⟨number, rule⟩, hmem, hdemand⟩
        obtain ⟨key, hmem, hnumber⟩ := mem_numbered.mp hmem
        exact ⟨key, rule, number, hmem, hnumber, hdemand⟩
      · rintro ⟨key, rule, number, hmem, hnumber, hdemand⟩
        exact ⟨(number, rule), mem_numbered.mpr ⟨key, hmem, hnumber⟩, hdemand⟩

-- ---------------------------------------------------------------------------
-- The demands of the rules that are reached
-- ---------------------------------------------------------------------------

/-- A property that a rule has if all rules within it have. -/
def Rule.Inherits (P : Rule → Prop) : Prop :=
  ∀ rule : Rule, (∀ entry ∈ rule.repository, P entry.2) → (∀ entry ∈ rule.captures, P entry.2) →
    (∀ entry ∈ rule.openingCaptures, P entry.2) → (∀ entry ∈ rule.closingCaptures, P entry.2) →
    (∀ entry ∈ rule.continuingCaptures, P entry.2) → (∀ inner ∈ rule.patterns, P inner) → P rule

mutual

theorem Rule.Inherits.holds {P : Rule → Prop} (h : Rule.Inherits P) (rule : Rule) : P rule := by
  obtain ⟨_, _, _, _, _, _, _, captures, openingCaptures, closingCaptures, continuingCaptures,
    patterns, repository, _⟩ := rule
  exact h _ (h.entries repository) (h.entries captures) (h.entries openingCaptures)
    (h.entries closingCaptures) (h.entries continuingCaptures) (h.rules patterns)

theorem Rule.Inherits.entries {P : Rule → Prop} (h : Rule.Inherits P)
    (entries : List (String × Rule)) : ∀ entry ∈ entries, P entry.2 := by
  match entries with
  | [] => nofun
  | (_, rule) :: rest => exact List.forall_mem_cons.mpr ⟨h.holds rule, h.entries rest⟩

theorem Rule.Inherits.rules {P : Rule → Prop} (h : Rule.Inherits P) (rules : List Rule) :
    ∀ rule ∈ rules, P rule := by
  match rules with
  | [] => nofun
  | rule :: rest => exact List.forall_mem_cons.mpr ⟨h.holds rule, h.rules rest⟩

end

theorem Rule.mem_of_captureEntries {rule : Rule} {second : Bool} {entry : String × Rule}
    (h : entry ∈ rule.captureEntries second) : entry ∈ rule.captures ∨
      entry ∈ rule.openingCaptures ∨ entry ∈ rule.closingCaptures ∨
      entry ∈ rule.continuingCaptures := by
  have hshared : ∀ own, entry ∈ captureEntries.orShared rule own →
      entry ∈ rule.captures ∨ entry ∈ own := by
    intro own hmem
    unfold captureEntries.orShared at hmem
    split at hmem
    · exact .inl hmem
    · exact .inr hmem
  unfold captureEntries at h
  split at h
  · split at h
    · cases h
    · exact .inl h
  · cases second with
    | false => exact (hshared _ h).imp_right .inl
    | true => exact (hshared _ h).imp_right (.inr ∘ .inr)
  · cases second with
    | false => exact (hshared _ h).imp_right .inl
    | true => exact (hshared _ h).imp_right (.inr ∘ .inl)
  · cases h

theorem Rule.holds_of_has {P : Rule → Prop}
    (h : ∀ rule : Rule, (∀ inner, rule.Has inner → P inner) → P rule) (rule : Rule) : P rule := by
  refine Inherits.holds (fun rule hrepository hcaptures hopening hclosing hcontinuing hpatterns =>
    h rule fun inner hhas => ?_) rule
  cases hhas with
  | entry hmem => exact hrepository _ hmem
  | capture hmem =>
    rcases mem_of_captureEntries hmem with hmem | hmem | hmem | hmem
    · exact hcaptures _ hmem
    · exact hopening _ hmem
    · exact hclosing _ hmem
    · exact hcontinuing _ hmem
  | pattern hmem =>
    unfold Rule.inner at hmem
    split at hmem
    · cases hmem
    · exact hpatterns inner hmem

/-- A demand of its own. -/
inductive Rule.Asks (rule : Rule) : Demand → Prop
  | regex {source} : source ∈ rule.sources → Asks rule (.regex source)
  | table {second number} : IsLast (rule.captureEntries second) number → Asks rule (.table number)

theorem Rule.of_mem_tables {rule : Rule} {second : Bool} {demand : Demand}
    (h : demand ∈ tables (captureDemands (rule.captureEntries second))) :
    rule.Asks demand ∨ ∃ inner, rule.Has inner ∧ demand ∈ inner.demands := by
  rcases mem_tables.mp h with ⟨number, hlast, rfl⟩ | ⟨key, inner, number, hmem, hnumber, hdemand⟩
  · exact .inl (.table hlast)
  · exact .inr ⟨inner, .capture hmem hnumber, hdemand⟩

theorem Rule.mem_demands_iff {rule : Rule} {demand : Demand} : demand ∈ rule.demands ↔
    rule.Asks demand ∨ ∃ inner, rule.Has inner ∧ demand ∈ inner.demands := by
  constructor
  · intro hmem
    rw [demands_eq] at hmem
    simp only [List.mem_append, List.mem_flatMap, List.mem_map, List.mem_filter] at hmem
    rcases hmem with (((⟨⟨name, inner⟩, hmem, hdemand⟩ | ⟨source, hmem, rfl⟩) | htables) |
      htables) | ⟨inner, ⟨hmem, hnone⟩, hdemand⟩
    · exact .inr ⟨inner, .entry hmem, hdemand⟩
    · exact .inl (.regex hmem)
    · exact of_mem_tables htables
    · exact of_mem_tables htables
    · exact .inr ⟨inner, .pattern hmem (Option.isNone_iff_eq_none.mp hnone), hdemand⟩
  · intro h
    have htables : ∀ second, demand ∈ tables (captureDemands (rule.captureEntries second)) →
        demand ∈ rule.demands := by
      intro second hmem
      rw [demands_eq]
      cases second <;> simp only [List.mem_append, hmem, true_or, or_true]
    rcases h with hown | ⟨inner, hhas, hdemand⟩
    · cases hown with
      | regex hmem =>
        rw [demands_eq]
        simp only [List.mem_append, List.mem_map_of_mem hmem, true_or, or_true]
      | @table second number hlast => exact htables second (mem_tables.mpr (.inl ⟨_, hlast, rfl⟩))
    · cases hhas with
      | entry hmem =>
        have hdemand : demand ∈ rule.repository.flatMap (·.2.demands) :=
          List.mem_flatMap.mpr ⟨_, hmem, hdemand⟩
        rw [demands_eq]
        simp only [List.mem_append, hdemand, true_or]
      | @capture second key _ number hmem hnumber =>
        exact htables second (mem_tables.mpr (.inr ⟨key, inner, number, hmem, hnumber, hdemand⟩))
      | pattern hmem hnone =>
        have hfiltered : inner ∈ rule.inner.filter (·.onlyInclude?.isNone) :=
          List.mem_filter.mpr ⟨hmem, Option.isNone_iff_eq_none.mpr hnone⟩
        have hdemand := List.mem_flatMap_of_mem hfiltered hdemand
        rw [demands_eq]
        simp only [List.mem_append, hdemand, or_true]

/-- The demands are those of the rules that are reached. -/
theorem Rule.mem_demands_iff_reaches {rule : Rule} {demand : Demand} :
    demand ∈ rule.demands ↔ ∃ inner, rule.Reaches inner ∧ inner.Asks demand := by
  constructor
  · induction rule using Rule.holds_of_has with
    | h rule ih =>
      intro hmem
      rcases mem_demands_iff.mp hmem with hasks | ⟨inner, hhas, hdemand⟩
      · exact ⟨rule, .self, hasks⟩
      · obtain ⟨target, hreaches, hasks⟩ := ih inner hhas hdemand
        exact ⟨target, .step hhas hreaches, hasks⟩
  · rintro ⟨inner, hreaches, hasks⟩
    induction hreaches with
    | self => exact mem_demands_iff.mpr (.inl hasks)
    | step hhas _ ih => exact mem_demands_iff.mpr (.inr ⟨_, hhas, ih hasks⟩)

end Written

-- ---------------------------------------------------------------------------
-- Meeting demands
-- ---------------------------------------------------------------------------

def Demand.checkAll (engine : Engine ρ) (demands : List Demand) : Except (Halt CompileError) Unit :=
  demands.forM (Demand.check engine)

namespace Demand

variable (engine : Engine ρ)

theorem checkAll_append (demands demands' : List Demand) :
    checkAll engine (demands ++ demands') =
      checkAll engine demands >>= fun _ => checkAll engine demands' :=
  List.forM_append

theorem checkAll_cons (demand : Demand) (demands : List Demand) :
    checkAll engine (demand :: demands) =
      demand.check engine >>= fun _ => checkAll engine demands := rfl

theorem checkAll_singleton (demand : Demand) : checkAll engine [demand] = demand.check engine := by
  rw [checkAll_cons]
  cases demand.check engine <;> rfl

variable {engine}

theorem checkAll_eq_ok_iff {demands : List Demand} :
    checkAll engine demands = .ok () ↔ ∀ demand ∈ demands, demand.check engine = .ok () := by
  induction demands with
  | nil => exact ⟨fun _ => nofun, fun _ => rfl⟩
  | cons demand rest ih =>
    rw [checkAll_cons, bind_ok, List.forall_mem_cons, ih]
    exact ⟨fun ⟨_, h⟩ => h, fun h => ⟨(), h⟩⟩

theorem checkAll_eq_error_iff {demands : List Demand} :
    checkAll engine demands = .error e ↔ ∃ before demand after,
      demands = before ++ demand :: after ∧ (∀ met ∈ before, met.check engine = .ok ()) ∧
        demand.check engine = .error e := by
  have hmet : ∀ demand : Demand,
      (∃ u, demand.check engine = .ok u) ↔ demand.check engine = .ok () :=
    fun _ => ⟨fun ⟨_, h⟩ => h, fun h => ⟨(), h⟩⟩
  rw [checkAll, forM_eq_error_iff, FirstError]
  simp only [hmet]

end Demand

namespace Compile

open Demand (checkAll_append checkAll_cons checkAll_singleton)
open Written (numbered captureDemands tables)

/-- A build fails as the first demand does that is not met, whatever is in the arena. -/
def Meets (engine : Engine ρ) (build : Build ρ α) (demands : List Demand) : Prop :=
  ∀ rules, (build rules).map (fun _ => ()) = Demand.checkAll engine demands

variable {engine : Engine ρ} {demands demands' : List Demand}

theorem meets_pure (a : α) : Meets engine (pure a) [] := fun _ => rfl

theorem meets_push (rule : Rule ρ) : Meets engine (push rule) [] := fun _ => rfl

theorem meets_set (id : RuleId) (rule : Rule ρ) : Meets engine (set id rule) [] := fun _ => rfl

theorem Meets.bind {x : Build ρ α} {f : α → Build ρ β} (hx : Meets engine x demands)
    (hf : ∀ a, Meets engine (f a) demands') : Meets engine (x >>= f) (demands ++ demands') := by
  intro rules
  rw [checkAll_append, ← hx rules, Draft.bind_apply]
  cases x rules with
  | ok result => exact hf result.1 result.2
  | error e => rfl

theorem Meets.map {x : Build ρ α} (hx : Meets engine x demands) (f : α → β) :
    Meets engine (f <$> x) demands := by
  intro rules
  rw [← hx rules]
  change (x rules >>= fun result => pure (f result.1, result.2)).map _ = _
  cases x rules <;> rfl

theorem meets_regex (source : String) : Meets engine (regex engine source) [.regex source] := by
  intro rules
  rw [checkAll_singleton, Demand.check, regex]
  cases engine.compile source <;> rfl

theorem meets_endPattern (source : String) :
    Meets engine (endPattern engine source) ((Written.static source).map .regex) := by
  unfold endPattern Written.static
  split
  · exact meets_pure _
  · exact (meets_regex source).map EndPattern.static

/-- What is compiled for a rule meets its demands, whatever repositories are around it. -/
def RuleMeets (engine : Engine ρ) (written : Written.Rule) : Prop :=
  ∀ scopes, Meets engine (rule engine scopes written) written.demands

theorem meets_runCaptures (scopes : Scopes) {captures : List (Nat × Written.Rule)}
    (h : ∀ capture ∈ captures, RuleMeets engine capture.2) :
    Meets engine (runCaptures (captures.map fun capture =>
      (capture.1, rule engine scopes capture.2))) (captures.flatMap (·.2.demands)) := by
  induction captures with
  | nil => exact meets_pure _
  | cons capture rest ih =>
    obtain ⟨hcapture, hrest⟩ := List.forall_mem_cons.mp h
    rw [List.flatMap_cons]
    refine (hcapture scopes).bind fun compiled => ?_
    refine (meets_push compiled).bind fun id => ?_
    exact (ih hrest).map fun captures =>
      if (captures.lookup capture.1).isSome then captures else (capture.1, id) :: captures

theorem captureBuilds_eq_map (scopes : Scopes) (entries : List (String × Written.Rule)) :
    captureBuilds engine scopes entries = (entries.filterMap fun (key, written) =>
      (Text.number? key.toList).map (·, written)).map fun capture =>
        (capture.1, rule engine scopes capture.2) := by
  induction entries with
  | nil => rfl
  | cons entry rest ih =>
    obtain ⟨key, written⟩ := entry
    rw [captureBuilds, ih, List.filterMap_cons]
    cases hnumber : Text.number? key.toList <;> simp only [hnumber] <;> rfl

theorem ordered_captureBuilds (scopes : Scopes) (entries : List (String × Written.Rule)) :
    (captureBuilds engine scopes entries).mergeSort (fun a b => a.1 ≤ b.1) =
      (numbered entries).map fun capture => (capture.1, rule engine scopes capture.2) := by
  rw [captureBuilds_eq_map, numbered, List.map_mergeSort]
  exact fun _ _ _ _ => rfl

theorem meets_captures (scopes : Scopes) {entries : List (String × Written.Rule)}
    (h : ∀ capture ∈ numbered entries, RuleMeets engine capture.2) :
    Meets engine (captures (captureBuilds engine scopes entries))
      (tables (captureDemands entries)) := by
  rw [Written.tables_captureDemands]
  simp only [captures, ordered_captureBuilds, List.getLast?_map]
  cases (numbered entries).getLast? with
  | none => exact meets_pure _
  | some capture =>
    intro rules
    have hrun := meets_runCaptures scopes h rules
    simp only [Option.map_some]
    rw [checkAll_cons]
    by_cases hsize : capture.1 < maxGroups
    · simp only [Demand.check, hsize, if_true, ok_bind]
      exact hrun
    · simp only [Demand.check, hsize, if_false]
      rfl

theorem meets_fill (scopes : Scopes) {entries : List (String × Written.Rule)}
    (h : ∀ entry ∈ entries, RuleMeets engine entry.2)
    (hplaces : ∀ entry ∈ entries, (scopes.head?.bind (·.lookup entry.1)).isSome) :
    Meets engine (fill engine scopes entries) (entries.flatMap (·.2.demands)) := by
  induction entries with
  | nil => exact meets_pure _
  | cons entry rest ih =>
    obtain ⟨name, written⟩ := entry
    obtain ⟨hentry, hrest⟩ := List.forall_mem_cons.mp h
    obtain ⟨hplace, hplaces⟩ := List.forall_mem_cons.mp hplaces
    obtain ⟨id, hid⟩ := Option.isSome_iff_exists.mp hplace
    rw [List.flatMap_cons, fill, hid]
    refine (hentry scopes).bind fun compiled => ?_
    exact (meets_set id compiled).bind fun _ => ih hrest hplaces

theorem meets_patterns (scopes : Scopes) {rules : List Written.Rule}
    (h : ∀ written ∈ rules, written.onlyInclude? = none → RuleMeets engine written) :
    Meets engine (patterns engine scopes rules)
      ((rules.filter (·.onlyInclude?.isNone)).flatMap Written.Rule.demands) := by
  induction rules with
  | nil => exact meets_pure _
  | cons written rest ih =>
    obtain ⟨hfirst, hrest⟩ := List.forall_mem_cons.mp h
    have hrest := (ih hrest)
    rw [patterns, ← Written.Rule.onlyInclude?, List.filter_cons]
    cases hinclude : written.onlyInclude? with
    | some reference => exact hrest.map _
    | none =>
      simp only [Option.isNone_none, if_true, List.flatMap_cons]
      refine (hfirst hinclude scopes).bind fun compiled => ?_
      exact (meets_push compiled).bind fun id => hrest.map _

/-- The entries of a repository are compiled before what is around them. -/
theorem meets_enter (outer : Scopes) {entries : List (String × Written.Rule)}
    (h : ∀ entry ∈ entries, RuleMeets engine entry.2) {after : Scopes → Build ρ α}
    (hafter : ∀ scopes, Meets engine (after scopes) demands) :
    Meets engine (if entries.isEmpty then pure outer >>= after
      else do
        let reserved ← reserve entries
        fill engine (reserved :: outer) entries
        pure (reserved :: outer) >>= after) (entries.flatMap (·.2.demands) ++ demands) := by
  cases entries with
  | nil => exact hafter outer
  | cons entry rest =>
    generalize hentries : entry :: rest = entries at *
    have hne : entries.isEmpty = false := by
      rw [← hentries]
      rfl
    intro rules
    simp only [hne, Bool.false_eq_true, if_false]
    rw [Draft.bind_apply, Draft.reserve_eq, ok_bind]
    refine ((meets_fill _ h fun entry hmem => ?_).bind fun _ => hafter _) _
    have hname : entry.1 ∈ ((entries.map (·.1)).zip
        (List.range' rules.size entries.length)).map (·.1) := by
      rw [List.map_fst_zip (by simp)]
      exact List.mem_map_of_mem hmem
    obtain ⟨place, hplace, hname⟩ := List.mem_map.mp hname
    rw [Option.isSome_iff_ne_none]
    intro hnone
    simpa [hname] using List.lookup_eq_none_iff.mp hnone place hplace

theorem rule_meets (engine : Engine ρ) (written : Written.Rule) : RuleMeets engine written := by
  induction written using Written.Rule.holds_of_has with
  | h written ih =>
  intro outer
  have hentries : ∀ entry ∈ written.repository, RuleMeets engine entry.2 :=
    fun entry hmem => ih _ (.entry hmem)
  have hcaptures : ∀ second scopes, Meets engine
      (captures (captureBuilds engine scopes (written.captureEntries second)))
      (tables (captureDemands (written.captureEntries second))) := by
    intro second scopes
    refine meets_captures scopes fun capture hmem => ?_
    obtain ⟨key, hmem, hnumber⟩ := Written.mem_numbered.mp hmem
    exact ih _ (.capture hmem hnumber)
  have hpatterns : ∀ scopes, Meets engine (patterns engine scopes written.inner)
      ((written.inner.filter (·.onlyInclude?.isNone)).flatMap Written.Rule.demands) :=
    fun scopes => meets_patterns scopes fun inner hmem hnone => ih _ (.pattern hmem hnone)
  rw [Written.Rule.demands_eq]
  simp only [List.append_assoc]
  obtain ⟨name, contentName, matching, opening, closing, continuing, reference, shared,
    openingCaptures, closingCaptures, continuingCaptures, inner, repository, closingLast⟩ := written
  simp only [rule]
  refine meets_enter outer hentries fun scopes => ?_
  have hfirst := hcaptures false scopes
  have hsecond := hcaptures true scopes
  have hpatterns := hpatterns scopes
  have hregex (source : String) : Meets engine (regex engine source) [.regex source] :=
    meets_regex source
  cases matching with
  | some source =>
    have hrule := (hregex source).bind fun regex =>
      hfirst.map (Rule.matching name regex)
    simpa [Written.Rule.sources, Written.Rule.captureEntries, Written.Rule.inner, tables,
      captureDemands] using hrule
  | none =>
  cases opening with
  | some opening =>
    cases continuing with
    | some continuing =>
      have hrule := (hregex opening).bind fun regex =>
        (meets_endPattern continuing).bind fun condition => hfirst.bind fun first =>
          hsecond.bind fun second => hpatterns.map
            (Rule.beginWhile name contentName regex condition first second)
      simpa [Written.Rule.sources, Written.Rule.captureEntries,
        Written.Rule.captureEntries.orShared, Written.Rule.inner,
        apply_ite (captureBuilds engine scopes)] using hrule
    | none =>
      have hrule := (hregex opening).bind fun regex =>
        (meets_endPattern (closing.getD neverEnds)).bind fun ending => hfirst.bind fun first =>
          hsecond.bind fun second => hpatterns.map fun patterns =>
            Rule.beginEnd name contentName regex ending first second patterns closingLast
      simpa [Written.Rule.sources, Written.Rule.captureEntries,
        Written.Rule.captureEntries.orShared, Written.Rule.inner,
        apply_ite (captureBuilds engine scopes)] using hrule
  | none =>
    have hrule := hpatterns.map fun patterns => (Rule.group name
      ((reference.bind (include? scopes)).toList ++ patterns) : Rule ρ)
    simpa [Written.Rule.sources, Written.Rule.captureEntries, Written.Rule.inner, tables,
      captureDemands] using hrule

end Compile

section

variable {engine : Engine ρ} {written : Written.Grammar} {scope : String}
  (hname : written.scopeName = some scope)
include hname

/-- A grammar with a scope name is compiled unless a demand of its top level is not met. -/
theorem Grammar.compile_meets : (Grammar.compile engine written).map (fun _ => ()) =
    Demand.checkAll engine written.body.demands := by
  have hmeets := Compile.rule_meets engine written.body
    (if written.repository.isEmpty then [[]] else []) #[]
  rw [← hmeets, Grammar.compile, hname]
  simp only [Draft.top_eq]
  cases Compile.rule engine _ written.body #[] <;> rfl

theorem Grammar.exists_compile_ok : (∃ grammar, Grammar.compile engine written = .ok grammar) ↔
    ∀ demand ∈ written.body.demands, demand.check engine = .ok () := by
  rw [← Demand.checkAll_eq_ok_iff, ← Grammar.compile_meets hname]
  cases Grammar.compile engine written <;> simp [Except.map]

theorem Grammar.compile_eq_error_iff : Grammar.compile engine written = .error e ↔
    ∃ before demand after, written.body.demands = before ++ demand :: after ∧
      (∀ met ∈ before, met.check engine = .ok ()) ∧ demand.check engine = .error e := by
  rw [← Demand.checkAll_eq_error_iff, ← Grammar.compile_meets hname]
  cases Grammar.compile engine written <;> simp [Except.map]

end

end LineScopes
