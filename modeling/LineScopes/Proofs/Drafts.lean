import LineScopes.Grammar.Compile

/-!
# Compiling in two stages

A grammar can be compiled in two stages. The first one compiles the regular
expressions and picks the captures that are in force; it can fail, and it knows
nothing of the arena. The second one gives each rule its place in the arena,
and then all includes their meaning; it cannot fail.
-/

namespace LineScopes

open Compile (Scopes)

-- ---------------------------------------------------------------------------
-- Maps
-- ---------------------------------------------------------------------------

theorem Compile.pairwise_inOrder (captures : List (Nat × α)) :
    (captures.mergeSort fun a b => a.1 ≤ b.1).Pairwise fun a b => a.1 ≤ b.1 := by
  refine (List.pairwise_mergeSort ?_ ?_ captures).imp of_decide_eq_true
  · simp only [decide_eq_true_eq]
    exact fun _ _ _ => Nat.le_trans
  · simp only [Bool.or_eq_true, decide_eq_true_eq]
    exact fun _ _ => Nat.le_total _ _

namespace Written

/-- The group numbers among the keys of a captures map. -/
def groupNumbers (captures : List (String × Rule)) : List Nat :=
  captures.filterMap fun entry => Text.number? entry.1.toList

mutual

/-- No two entries of a repository have the same name, and no two entries of a captures map are
for the same group. -/
def Rule.Keyed : Rule → Prop
  | ⟨_, _, _, _, _, _, _, captures, openingCaptures, closingCaptures, continuingCaptures,
      patterns, repository, _⟩ =>
    (repository.map (·.1)).Nodup ∧ EntriesKeyed repository ∧
      (groupNumbers captures).Nodup ∧ EntriesKeyed captures ∧
      (groupNumbers openingCaptures).Nodup ∧ EntriesKeyed openingCaptures ∧
      (groupNumbers closingCaptures).Nodup ∧ EntriesKeyed closingCaptures ∧
      (groupNumbers continuingCaptures).Nodup ∧ EntriesKeyed continuingCaptures ∧
      RulesKeyed patterns

def EntriesKeyed : List (String × Rule) → Prop
  | [] => True
  | (_, rule) :: rest => rule.Keyed ∧ EntriesKeyed rest

def RulesKeyed : List Rule → Prop
  | [] => True
  | rule :: rest => rule.Keyed ∧ RulesKeyed rest

end

mutual

/-- No two entries of a repository have the same name. All documents that are read are so. -/
def Rule.Named : Rule → Prop
  | ⟨_, _, _, _, _, _, _, captures, openingCaptures, closingCaptures, continuingCaptures,
      patterns, repository, _⟩ =>
    (repository.map (·.1)).Nodup ∧ EntriesNamed repository ∧ EntriesNamed captures ∧
      EntriesNamed openingCaptures ∧ EntriesNamed closingCaptures ∧
      EntriesNamed continuingCaptures ∧ RulesNamed patterns

def EntriesNamed : List (String × Rule) → Prop
  | [] => True
  | (_, rule) :: rest => rule.Named ∧ EntriesNamed rest

def RulesNamed : List Rule → Prop
  | [] => True
  | rule :: rest => rule.Named ∧ RulesNamed rest

end

mutual

theorem Rule.Keyed.named (rule : Rule) (h : rule.Keyed) : rule.Named := by
  obtain ⟨_, _, _, _, _, _, _, captures, openingCaptures, closingCaptures, continuingCaptures,
    patterns, repository, _⟩ := rule
  obtain ⟨hnodup, hrepository, -, hcaptures, -, hopening, -, hclosing, -, hcontinuing,
    hpatterns⟩ := h
  exact ⟨hnodup, EntriesKeyed.named repository hrepository, EntriesKeyed.named captures hcaptures,
    EntriesKeyed.named openingCaptures hopening, EntriesKeyed.named closingCaptures hclosing,
    EntriesKeyed.named continuingCaptures hcontinuing, RulesKeyed.named patterns hpatterns⟩

theorem EntriesKeyed.named (entries : List (String × Rule)) (h : EntriesKeyed entries) :
    EntriesNamed entries := by
  match entries with
  | [] => trivial
  | (_, rule) :: rest => exact ⟨Rule.Keyed.named rule h.1, EntriesKeyed.named rest h.2⟩

theorem RulesKeyed.named (rules : List Rule) (h : RulesKeyed rules) : RulesNamed rules := by
  match rules with
  | [] => trivial
  | rule :: rest => exact ⟨Rule.Keyed.named rule h.1, RulesKeyed.named rest h.2⟩

end

/-- The top level of a grammar as a rule. -/
def Grammar.body (written : Grammar) : Rule :=
  { patterns := written.patterns, repository := written.repository }

end Written

-- ---------------------------------------------------------------------------
-- Drafts
-- ---------------------------------------------------------------------------

/-- What a rule is for the rule around it. -/
inductive Role
  | entry (name : String)
  | capture (group : Nat)
  | pattern
  deriving DecidableEq

/-- The name of an entry of a repository. -/
def Role.name? : Role → Option String
  | entry name => some name
  | capture _ | pattern => none

/-- The fields of a rule that refer to no other rules. -/
inductive Shape (ρ : Type)
  | matching (name : Option String) (regex : ρ)
  | beginEnd (name contentName : Option String) (opening : ρ) (closing : EndPattern ρ)
      (closingLast : Bool)
  | beginWhile (name contentName : Option String) (opening : ρ) (condition : EndPattern ρ)
  | group (name : Option String)

def Shape.rule (openingCaptures closingCaptures : Captures) (patterns : List PatternRef) :
    Shape ρ → Rule ρ
  | .matching name regex => .matching name regex openingCaptures
  | .beginEnd name contentName opening closing closingLast =>
    .beginEnd name contentName opening closing openingCaptures closingCaptures patterns closingLast
  | .beginWhile name contentName opening condition =>
    .beginWhile name contentName opening condition openingCaptures closingCaptures patterns
  | .group name => .group name patterns

/-- A rule that has been compiled except for the places of the rules within it. Each of these
has a label. -/
structure Draft (ι ρ : Type) where
  label : ι
  role : Role
  shape : Shape ρ
  /-- The entries of its patterns: the text of an include, or else the next rule. -/
  listing : List (Option String)
  repository : List (Draft ι ρ)
  /-- The captures in force, for a match or a begin match and for the other match. -/
  opening : List (Draft ι ρ)
  closing : List (Draft ι ρ)
  patterns : List (Draft ι ρ)

-- ---------------------------------------------------------------------------
-- The first stage
-- ---------------------------------------------------------------------------

namespace Draft

def regex (engine : Engine ρ) (source : String) : Except (Halt CompileError) ρ :=
  (engine.compile source).mapError fun message => .error (.badRegex source message)

def endPattern (engine : Engine ρ) (source : String) : Except (Halt CompileError) (EndPattern ρ) :=
  if BackReference.isIn source then .ok (.dynamic source) else .static <$> regex engine source

/-- The rules of capture groups in the order of their numbers. -/
def sorted (captures : List (Nat × Except (Halt CompileError) (Draft Unit ρ))) :
    Except (Halt CompileError) (List (Draft Unit ρ)) :=
  let ordered := captures.mergeSort fun a b => a.1 ≤ b.1
  match ordered.getLast? with
  | some (number, _) =>
    if number < Compile.maxGroups then ordered.mapM (·.2) else .error (.crash (.hugeGroup number))
  | none => .ok []

mutual

def ofRule (engine : Engine ρ) (role : Role) :
    Written.Rule → Except (Halt CompileError) (Draft Unit ρ)
  | ⟨name, contentName, matching, opening, closing, continuing, reference, shared, openingCaptures,
      closingCaptures, continuingCaptures, inner, repository, closingLast⟩ => do
    let entries ← ofEntries engine repository
    let sharedCaptures := ofCaptures engine shared
    let capturesOf (captures : List (Nat × Except (Halt CompileError) (Draft Unit ρ)))
        (own : List (String × Written.Rule)) :=
      sorted (if own.isEmpty then sharedCaptures else captures)
    match matching, opening, continuing with
    | some source, _, _ => do
      let regex ← regex engine source
      return ⟨(), role, .matching name regex, [], entries, ← sorted sharedCaptures, [], []⟩
    | none, some opening, some continuing => do
      let opening ← regex engine opening
      let condition ← endPattern engine continuing
      let first ← capturesOf (ofCaptures engine openingCaptures) openingCaptures
      let second ← capturesOf (ofCaptures engine continuingCaptures) continuingCaptures
      let (listing, rules) ← ofPatterns engine inner
      return ⟨(), role, .beginWhile name contentName opening condition, listing, entries, first,
        second, rules⟩
    | none, some opening, none => do
      let opening ← regex engine opening
      let closing ← endPattern engine (closing.getD Compile.neverEnds)
      let first ← capturesOf (ofCaptures engine openingCaptures) openingCaptures
      let second ← capturesOf (ofCaptures engine closingCaptures) closingCaptures
      let (listing, rules) ← ofPatterns engine inner
      return ⟨(), role, .beginEnd name contentName opening closing closingLast, listing, entries,
        first, second, rules⟩
    | none, none, _ => do
      let (listing, rules) ← ofPatterns engine inner
      return ⟨(), role, .group name, reference.toList.map some ++ listing, entries, [], [], rules⟩

def ofEntries (engine : Engine ρ) :
    List (String × Written.Rule) → Except (Halt CompileError) (List (Draft Unit ρ))
  | [] => .ok []
  | (name, written) :: rest => do
    let draft ← ofRule engine (.entry name) written
    return draft :: (← ofEntries engine rest)

def ofPatterns (engine : Engine ρ) :
    List Written.Rule → Except (Halt CompileError) (List (Option String) × List (Draft Unit ρ))
  | [] => .ok ([], [])
  | written :: rest =>
    let reference := if written.matching.isNone ∧ written.opening.isNone ∧ written.patterns.isEmpty
      then written.reference else none
    match reference with
    | some reference => do
      let (listing, rules) ← ofPatterns engine rest
      return (some reference :: listing, rules)
    | none => do
      let draft ← ofRule engine .pattern written
      let (listing, rules) ← ofPatterns engine rest
      return (none :: listing, draft :: rules)

def ofCaptures (engine : Engine ρ) :
    List (String × Written.Rule) → List (Nat × Except (Halt CompileError) (Draft Unit ρ))
  | [] => []
  | (key, written) :: rest =>
    match Text.number? key.toList with
    | some number => (number, ofRule engine (.capture number) written) :: ofCaptures engine rest
    | none => ofCaptures engine rest

end

-- ---------------------------------------------------------------------------
-- The second stage
-- ---------------------------------------------------------------------------

mutual

/-- Labels a draft, and the rules within it, with their places in an arena that has `next` rules.
The draft comes to the end of the arena if it has no place yet. -/
def number (place : Option RuleId) (next : Nat) : Draft ι ρ → Draft RuleId ρ × Nat
  | ⟨_, role, shape, listing, repository, opening, closing, patterns⟩ =>
    let (repository, next) := numberAll (some next) (next + repository.length) repository
    let (opening, next) := numberAll none next opening
    let (closing, next) := numberAll none next closing
    let (patterns, next) := numberAll none next patterns
    match place with
    | some place => (⟨place, role, shape, listing, repository, opening, closing, patterns⟩, next)
    | none => (⟨next, role, shape, listing, repository, opening, closing, patterns⟩, next + 1)

def numberAll (place : Option RuleId) (next : Nat) :
    List (Draft ι ρ) → List (Draft RuleId ρ) × Nat
  | [] => ([], next)
  | draft :: rest =>
    let (draft, next) := number place next draft
    let (rest, next) := numberAll (place.map (· + 1)) next rest
    (draft :: rest, next)

end

/-- The names of the entries of a repository, with their places. -/
def places (repository : List (Draft RuleId ρ)) : List (String × RuleId) :=
  repository.filterMap fun draft =>
    match draft.role with
    | .entry name => some (name, draft.label)
    | _ => none

/-- The captures of a rule. The last rule for a group counts. -/
def captureIds : List (Draft RuleId ρ) → Captures
  | [] => []
  | draft :: rest =>
    match draft.role with
    | .capture group =>
      if ((captureIds rest).lookup group).isSome then captureIds rest
      else (group, draft.label) :: captureIds rest
    | _ => captureIds rest

/-- The patterns of a rule. -/
def references (scopes : Scopes) : List (Option String) → List (Draft RuleId ρ) → List PatternRef
  | [], _ => []
  | some text :: listing, rules =>
    (Compile.include? scopes text).toList ++ references scopes listing rules
  | none :: listing, rule :: rules => .rule rule.label :: references scopes listing rules
  | none :: _, [] => []

/-- The repositories around what is within a rule. -/
def scopes (draft : Draft RuleId ρ) (outer : Scopes) : Scopes :=
  if draft.repository.isEmpty then outer else places draft.repository :: outer

/-- The rule that a draft stands for. -/
def rule (draft : Draft RuleId ρ) (outer : Scopes) : Rule ρ :=
  draft.shape.rule (captureIds draft.opening) (captureIds draft.closing)
    (references (draft.scopes outer) draft.listing draft.patterns)

def own (outer : Scopes) (draft : Draft RuleId ρ) : RuleId × Rule ρ :=
  (draft.label, draft.rule outer)

mutual

/-- The rules within a draft, in the order in which they come into the arena. -/
def block (outer : Scopes) : Draft RuleId ρ → List (RuleId × Rule ρ)
  | ⟨label, role, shape, listing, repository, opening, closing, patterns⟩ =>
    let scopes := scopes ⟨label, role, shape, listing, repository, opening, closing, patterns⟩ outer
    repository.map (own scopes) ++ blocks true scopes repository ++ blocks false scopes opening ++
      blocks false scopes closing ++ blocks false scopes patterns

/-- The rules within drafts, and the drafts themselves unless they have places already. -/
def blocks (placed : Bool) (scopes : Scopes) : List (Draft RuleId ρ) → List (RuleId × Rule ρ)
  | [] => []
  | draft :: rest =>
    block scopes draft ++ (if placed then [] else [own scopes draft]) ++ blocks placed scopes rest

end

-- ---------------------------------------------------------------------------
-- Places
-- ---------------------------------------------------------------------------

mutual

/-- How many rules a draft has within it. -/
def size : Draft ι ρ → Nat
  | ⟨_, _, _, _, repository, opening, closing, patterns⟩ =>
    repository.length + sizeAll true repository + sizeAll false opening + sizeAll false closing +
      sizeAll false patterns

def sizeAll (placed : Bool) : List (Draft ι ρ) → Nat
  | [] => 0
  | draft :: rest => size draft + (if placed then 0 else 1) + sizeAll placed rest

end

@[simp] theorem length_numberAll (place : Option RuleId) (next : Nat) (drafts : List (Draft ι ρ)) :
    (numberAll place next drafts).1.length = drafts.length := by
  induction drafts generalizing place next with
  | nil => rfl
  | cons draft rest ih => simp only [numberAll, List.length_cons, ih]

mutual

theorem number_next (place : Option RuleId) (next : Nat) (draft : Draft ι ρ) :
    (number place next draft).2 = next + draft.size + if place.isSome then 0 else 1 := by
  obtain ⟨label, role, shape, listing, repository, opening, closing, patterns⟩ := draft
  have hrepository := numberAll_next (some next) (next + repository.length) repository
  have hopening := fun next => numberAll_next none next opening
  have hclosing := fun next => numberAll_next none next closing
  have hpatterns := fun next => numberAll_next none next patterns
  simp only [Option.isSome_some, Option.isSome_none] at hrepository hopening hclosing hpatterns
  cases place <;>
    simp only [number, size, hrepository, hopening, hclosing, hpatterns, Option.isSome_none,
      Option.isSome_some, Bool.false_eq_true, if_true, if_false] <;> omega

theorem numberAll_next (place : Option RuleId) (next : Nat) (drafts : List (Draft ι ρ)) :
    (numberAll place next drafts).2 = next + sizeAll place.isSome drafts := by
  match drafts with
  | [] => rfl
  | draft :: rest =>
    rw [numberAll, numberAll_next _ _ rest, number_next place next draft, sizeAll,
      Option.isSome_map]
    omega

end

theorem number_label (place : Option RuleId) (next : Nat) (draft : Draft ι ρ) :
    (number place next draft).1.label = place.getD (next + draft.size) := by
  have hnext := number_next place next draft
  obtain ⟨label, role, shape, listing, repository, opening, closing, patterns⟩ := draft
  cases place with
  | some place => rfl
  | none =>
    simp only [number, Option.isSome_none, Bool.false_eq_true, if_false] at hnext ⊢
    simpa using hnext

theorem numberAll_places (place next : Nat) (drafts : List (Draft ι ρ)) :
    (numberAll (some place) next drafts).1.map (·.label) = List.range' place drafts.length := by
  induction drafts generalizing place next with
  | nil => rfl
  | cons draft rest ih =>
    simp only [numberAll, List.map_cons, List.length_cons, List.range'_succ, number_label]
    exact congrArg _ (ih (place + 1) _)

mutual

theorem map_fst_block (place : Option RuleId) (next : Nat) (outer : Scopes) (draft : Draft ι ρ) :
    ((number place next draft).1.block outer).map (·.1) = List.range' next draft.size := by
  obtain ⟨label, role, shape, listing, repository, opening, closing, patterns⟩ := draft
  have hplaces := numberAll_places next (next + repository.length) repository
  have hrepository := fun scopes =>
    map_fst_blocks (some next) (next + repository.length) scopes repository
  have hopening := fun next scopes => map_fst_blocks none next scopes opening
  have hclosing := fun next scopes => map_fst_blocks none next scopes closing
  have hpatterns := fun next scopes => map_fst_blocks none next scopes patterns
  simp only [Option.isSome_some, Option.isSome_none] at hrepository hopening hclosing hpatterns
  cases place <;>
    simp only [number, block, size, List.map_append, List.map_map, hrepository, hopening,
      hclosing, hpatterns, numberAll_next, Option.isSome_some, Option.isSome_none]
  all_goals
    have hown : ∀ scopes, List.map ((·.1) ∘ own scopes)
        (numberAll (some next) (next + repository.length) repository).1 =
          List.range' next repository.length := fun scopes => hplaces
    simp only [hown, Nat.add_assoc, List.range'_append_1]

theorem map_fst_blocks (place : Option RuleId) (next : Nat) (scopes : Scopes)
    (drafts : List (Draft ι ρ)) :
    (blocks place.isSome scopes (numberAll place next drafts).1).map (·.1) =
      List.range' next (sizeAll place.isSome drafts) := by
  match drafts with
  | [] => rfl
  | draft :: rest =>
    have hfirst := map_fst_block place next scopes draft
    have hlabel := number_label place next draft
    have hrest := map_fst_blocks (place.map (· + 1)) (number place next draft).2 scopes rest
    rw [Option.isSome_map, number_next] at hrest
    rw [numberAll, blocks, sizeAll, List.map_append, List.map_append, number_next, hfirst, hrest]
    cases place with
    | some place => simp [List.range'_append_1]
    | none =>
      have hown : own scopes (number none next draft).1 =
          (next + draft.size, (number none next draft).1.rule scopes) := by rw [own, hlabel]; rfl
      simp [hown, ← List.range'_1_concat, Nat.add_assoc, List.range'_append_1]

end

@[simp] theorem length_block (place : Option RuleId) (next : Nat) (outer : Scopes)
    (draft : Draft ι ρ) : ((number place next draft).1.block outer).length = draft.size := by
  rw [← List.length_map (f := (·.1)), map_fst_block, List.length_range']

@[simp] theorem length_blocks (place : Option RuleId) (next : Nat) (scopes : Scopes)
    (drafts : List (Draft ι ρ)) :
    (blocks place.isSome scopes (numberAll place next drafts).1).length =
      sizeAll place.isSome drafts := by
  rw [← List.length_map (f := (·.1)), map_fst_blocks, List.length_range']

theorem rule_number (place : RuleId) (next : Nat) (outer : Scopes) (draft : Draft ι ρ) :
    (number (some place) next draft).1.rule outer = (number none next draft).1.rule outer := by
  cases draft
  rfl

theorem block_number (place : RuleId) (next : Nat) (outer : Scopes) (draft : Draft ι ρ) :
    (number (some place) next draft).1.block outer = (number none next draft).1.block outer := by
  cases draft
  rfl

end Draft

end LineScopes
