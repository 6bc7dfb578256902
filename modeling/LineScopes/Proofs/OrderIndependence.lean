import LineScopes.Proofs.Boundaries
import LineScopes.Proofs.Ownership
import LineScopes.Proofs.Pairing
import LineScopes.Proofs.Simulation

/-!
# The order of maps does not matter

A grammar whose rules are renamed leads to renamed rules, and other grammars
to their own. So a grammar document tokenizes text the same way in whatever
order its maps have their entries.
-/

namespace LineScopes

-- ---------------------------------------------------------------------------
-- Counterparts
-- ---------------------------------------------------------------------------

theorem Rule.rename_id (rule : Rule ρ) : rule.rename id = rule := by
  have hpattern : PatternRef.rename id = id := by
    funext pattern
    cases pattern <;> rfl
  have hcaptures : ∀ captures : Captures, captures.rename id = captures := fun captures => by
    simp [Captures.rename]
  cases rule <;> simp [rename, hpattern, hcaptures]

section

variable (f : RuleId → RuleId) (base base' : Grammar ρ)

/-- The grammar that is tokenized has another in its place; grammars of other scope names stand
for themselves. -/
inductive Grammar.Counterpart : (RuleId → RuleId) → Grammar ρ → Grammar ρ → Prop
  | base : Counterpart f base base'
  | other {grammar : Grammar ρ} :
    grammar.scopeName ≠ base.scopeName → Counterpart id grammar grammar

def RuleRef.Counterpart (ref ref' : RuleRef ρ) : Prop :=
  ∃ f', Grammar.Counterpart f base base' f' ref.grammar ref'.grammar ∧ ref'.id = f' ref.id

end

variable {f f' : RuleId → RuleId} {base base' grammar grammar' : Grammar ρ}

namespace Grammar.Counterpart

theorem root (hbase : base.Renamed f base') (h : Counterpart f base base' f' grammar grammar') :
    (RuleRef.root grammar).Counterpart f base base' (.root grammar') := by
  refine ⟨f', h, ?_⟩
  cases h with
  | base => exact hbase.root
  | other => rfl

theorem rule (hbase : base.Renamed f base') (h : Counterpart f base base' f' grammar grammar')
    (id : RuleId) : grammar'.rule (f' id) = (grammar.rule id).rename f' := by
  cases h with
  | base => exact hbase.rule id
  | other => exact (Rule.rename_id _).symm

theorem repositoryRule (hbase : base.Renamed f base')
    (h : Counterpart f base base' f' grammar grammar') (name : String) :
    grammar'.repositoryRule name = (grammar.repositoryRule name).map f' := by
  cases h with
  | base => exact hbase.repositoryRule name
  | other => exact Option.map_id.symm ▸ rfl

theorem key_iff (hbase : base.Renamed f base') {a a' b b' : RuleRef ρ}
    (ha : a.Counterpart f base base' a') (hb : b.Counterpart f base base' b') :
    a'.key = b'.key ↔ a.key = b.key := by
  obtain ⟨a, i⟩ := a
  obtain ⟨a', i'⟩ := a'
  obtain ⟨b, j⟩ := b
  obtain ⟨b', j'⟩ := b'
  obtain ⟨_, ha, rfl⟩ := ha
  obtain ⟨_, hb, rfl⟩ := hb
  simp only [RuleRef.key, Prod.mk.injEq] at ha hb ⊢
  cases ha with
  | base =>
    cases hb with
    | base => simp [hbase.injective.eq_iff]
    | other hname => simp [hbase.scopeName, hname.symm]
  | other hname =>
    cases hb with
    | base => simp [hbase.scopeName, hname]
    | other => rfl

end Grammar.Counterpart

theorem RuleRef.Counterpart.rule (hbase : base.Renamed f base') {ref ref' : RuleRef ρ}
    (h : ref.Counterpart f base base' ref') :
    ∃ f', Grammar.Counterpart f base base' f' ref.grammar ref'.grammar ∧
      ref'.rule = ref.rule.rename f' := by
  obtain ⟨f', hgrammar, hid⟩ := h
  refine ⟨f', hgrammar, ?_⟩
  rw [RuleRef.rule, hid, hgrammar.rule hbase]
  rfl

namespace Library

/-- The library with another grammar to be tokenized. -/
def withBase (library : Library ρ) (base : Grammar ρ) : Library ρ := { library with base }

variable {library : Library ρ}

theorem ruleCount_withBase (hbase : library.base.Renamed f base') :
    (library.withBase base').ruleCount = library.ruleCount := by
  simp only [ruleCount, withBase, hbase.size]

theorem grammar?_counterpart (hbase : library.base.Renamed f base') (scope : String) :
    Option.Rel
      (fun grammar grammar' => ∃ f', Grammar.Counterpart f library.base base' f' grammar grammar')
      (library.grammar? scope) ((library.withBase base').grammar? scope) := by
  unfold grammar?
  simp only [withBase, hbase.scopeName]
  split
  · exact .some ⟨f, .base⟩
  · next hscope =>
    cases hget : library.registry.get? scope with
    | none => exact .none
    | some grammar =>
      have hname := Registry.scopeName_of_get? hget
      exact .some ⟨id, .other (by rw [hname]; exact fun h => hscope h.symm)⟩

theorem resolve_counterpart (hbase : library.base.Renamed f base')
    (h : Grammar.Counterpart f library.base base' f' grammar grammar') (pattern : PatternRef) :
    Option.Rel (RuleRef.Counterpart f library.base base') (library.resolve grammar pattern)
      ((library.withBase base').resolve grammar' (pattern.rename f')) := by
  cases pattern with
  | rule id => exact .some ⟨f', h, rfl⟩
  | self => exact .some (h.root hbase)
  | base => exact .some (Grammar.Counterpart.base.root hbase)
  | external scope name =>
    have hgrammar := grammar?_counterpart hbase scope
    cases name with
    | none =>
      simp only [resolve, PatternRef.rename]
      generalize library.grammar? scope = found, (library.withBase base').grammar? scope = found'
        at hgrammar
      cases hgrammar with
      | none => exact .none
      | some h =>
        obtain ⟨_, h⟩ := h
        exact .some (h.root hbase)
    | some name =>
      simp only [resolve, PatternRef.rename]
      generalize library.grammar? scope = found, (library.withBase base').grammar? scope = found'
        at hgrammar
      cases hgrammar with
      | none => exact .none
      | @some target target' h =>
        obtain ⟨f', h⟩ := h
        simp only [Option.bind_eq_bind, Option.bind_some, h.repositoryRule hbase]
        cases target.repositoryRule name with
        | none => exact .none
        | some id => exact .some ⟨f', h, rfl⟩

/-- Counterparts have been met, and found. -/
structure Expansion.Counterparts (f : RuleId → RuleId) (base base' : Grammar ρ)
    (expansion expansion' : Expansion ρ) : Prop where
  met : List.Forall₂ (fun key key' => ∃ ref ref' : RuleRef ρ, ref.Counterpart f base base' ref' ∧
    ref.key = key ∧ ref'.key = key') expansion.met expansion'.met
  found : List.Forall₂ (RuleRef.Counterpart f base base') expansion.found expansion'.found

theorem Expansion.Counterparts.contains (hbase : base.Renamed f base')
    {expansion expansion' : Expansion ρ} (h : expansion.Counterparts f base base' expansion')
    {ref ref' : RuleRef ρ} (href : ref.Counterpart f base base' ref') :
    expansion'.met.contains ref'.key = expansion.met.contains ref.key := by
  have hmet := h.met
  generalize expansion.met = met, expansion'.met = met' at hmet
  induction hmet with
  | nil => rfl
  | cons hfirst _ ih =>
    obtain ⟨a, a', ha, rfl, rfl⟩ := hfirst
    have hkey : (ref'.key == a'.key) = (ref.key == a.key) := by
      rw [Bool.eq_iff_iff, beq_iff_eq, beq_iff_eq, Grammar.Counterpart.key_iff hbase href ha]
    rw [List.contains_cons, List.contains_cons, hkey, ih]

/-- Follows one pattern; groups are followed as given. -/
def visit (library : Library ρ) (follow : RuleRef ρ → Expansion ρ → Expansion ρ)
    (grammar : Grammar ρ) (expansion : Expansion ρ) (pattern : PatternRef) : Expansion ρ :=
  match library.resolve grammar pattern with
  | none => expansion
  | some ref =>
    if expansion.met.contains ref.key then expansion
    else
      let met := ref.key :: expansion.met
      if ref.rule.regex?.isSome then { met, found := ref :: expansion.found }
      else follow ref { expansion with met }

theorem expand_zero (library : Library ρ) (grammar : Grammar ρ) (patterns : List PatternRef)
    (expansion : Expansion ρ) : library.expand 0 grammar patterns expansion =
      patterns.foldl (library.visit (fun _ expansion => expansion) grammar) expansion := by
  rw [expand]
  rfl

theorem expand_succ (library : Library ρ) (depth : Nat) (grammar : Grammar ρ)
    (patterns : List PatternRef) (expansion : Expansion ρ) :
    library.expand (depth + 1) grammar patterns expansion =
      patterns.foldl (library.visit (fun ref => library.expand depth ref.grammar ref.rule.patterns)
        grammar) expansion := by
  rw [expand]
  rfl

section

variable (hbase : library.base.Renamed f base')
include hbase

theorem visit_counterparts {follow follow' : RuleRef ρ → Expansion ρ → Expansion ρ}
    (hfollow : ∀ {ref ref' expansion expansion'}, ref.Counterpart f library.base base' ref' →
      expansion.Counterparts f library.base base' expansion' →
        (follow ref expansion).Counterparts f library.base base' (follow' ref' expansion'))
    (h : Grammar.Counterpart f library.base base' f' grammar grammar') (patterns : List PatternRef)
    {expansion expansion' : Expansion ρ}
    (hexpansion : expansion.Counterparts f library.base base' expansion') :
    (patterns.foldl (library.visit follow grammar) expansion).Counterparts f library.base base'
      ((patterns.map (·.rename f')).foldl ((library.withBase base').visit follow' grammar')
        expansion') := by
  induction patterns generalizing expansion expansion' with
  | nil => exact hexpansion
  | cons pattern rest ih =>
    refine ih ?_
    have hresolve := resolve_counterpart hbase h pattern
    unfold visit
    generalize library.resolve grammar pattern = found,
      (library.withBase base').resolve grammar' (pattern.rename f') = found' at hresolve
    cases hresolve with
    | none => exact hexpansion
    | @some ref ref' href =>
      obtain ⟨f', -, hrule⟩ := href.rule hbase
      have hmet : Expansion.Counterparts f library.base base'
          { expansion with met := ref.key :: expansion.met }
          { expansion' with met := ref'.key :: expansion'.met } :=
        ⟨.cons ⟨ref, ref', href, rfl, rfl⟩ hexpansion.met, hexpansion.found⟩
      simp only [hexpansion.contains hbase href, hrule, Rule.regex?_rename]
      split
      · exact hexpansion
      · split
        · exact ⟨hmet.met, .cons href hexpansion.found⟩
        · exact hfollow href hmet

theorem expand_counterparts (depth : Nat)
    (h : Grammar.Counterpart f library.base base' f' grammar grammar') (patterns : List PatternRef)
    {expansion expansion' : Expansion ρ}
    (hexpansion : expansion.Counterparts f library.base base' expansion') :
    (library.expand depth grammar patterns expansion).Counterparts f library.base base'
      ((library.withBase base').expand depth grammar' (patterns.map (·.rename f')) expansion') := by
  induction depth generalizing grammar grammar' f' patterns expansion expansion' with
  | zero =>
    rw [expand_zero, expand_zero]
    exact visit_counterparts hbase (fun _ h => h) h patterns hexpansion
  | succ depth ih =>
    rw [expand_succ, expand_succ]
    refine visit_counterparts hbase (fun href hexpansion => ?_) h patterns hexpansion
    obtain ⟨f', hgrammar, hrule⟩ := href.rule hbase
    rw [hrule, Rule.patterns_rename]
    exact ih hgrammar _ hexpansion

theorem candidates_counterparts {ref ref' : RuleRef ρ}
    (href : ref.Counterpart f library.base base' ref') :
    List.Forall₂ (RuleRef.Counterpart f library.base base') (library.candidates ref)
      ((library.withBase base').candidates ref') := by
  obtain ⟨f', hgrammar, hrule⟩ := href.rule hbase
  have hnone : Expansion.Counterparts f library.base base' {} {} := ⟨.nil, .nil⟩
  have hfound := (expand_counterparts hbase (library.ruleCount + 1) hgrammar ref.rule.patterns
    hnone).found
  unfold candidates
  rw [ruleCount_withBase hbase, hrule, Rule.patterns_rename]
  exact List.forall₂_reverse_iff.mpr hfound

end

theorem twins_withBase (library : Library ρ) (hbase : library.base.Renamed f base') :
    library.Twins (RuleRef.Counterpart f library.base base') (library.withBase base') where
  rule {ref ref'} href := by
    obtain ⟨f', hgrammar, hrule⟩ := href.rule hbase
    exact ⟨f', hrule, fun id => ⟨f', hgrammar, rfl⟩⟩
  key := Grammar.Counterpart.key_iff hbase
  candidates := candidates_counterparts hbase
  ruleCount := ruleCount_withBase hbase

end Library

-- ---------------------------------------------------------------------------
-- Grammar documents
-- ---------------------------------------------------------------------------

/-- Two orders of the maps of a grammar document compile to the same rules in other places, and
the two grammars tokenize any text the same. -/
theorem Grammar.compile_reordered {engine : Engine ρ} {written other : Written.Grammar}
    {grammar : Grammar ρ} (hkeyed : written.body.Keyed) (hreorders : written.Reorders other)
    (h : Grammar.compile engine written = .ok grammar) :
    ∃ grammar' f, Grammar.compile engine other = .ok grammar' ∧ grammar.Renamed f grammar' ∧
      Set.BijOn f {id | grammar.Reaches id} {id | grammar'.Reaches id} ∧
      ∀ (registry : Registry ρ) (nesting : Nat) (lines : List String),
        Coincide (fun result result' => result'.1 = result.1 ∧
            result'.2.depth = result.2.depth ∧ result'.2.scopes = result.2.scopes)
          (Tokenizer.lineTokenizer ⟨⟨grammar, registry⟩, engine, nesting⟩ |>.tokenizeLines lines)
          (Tokenizer.lineTokenizer ⟨⟨grammar', registry⟩, engine, nesting⟩
            |>.tokenizeLines lines) := by
  obtain ⟨f, grammar', hcompile, hrenamed⟩ := Grammar.compile_renamed hkeyed hreorders h
  refine ⟨grammar', f, hcompile, hrenamed, hrenamed.bijOn, fun registry nesting lines => ?_⟩
  have htwins : (⟨grammar, registry⟩ : Library ρ).Twins
      (RuleRef.Counterpart f grammar grammar') ⟨grammar', registry⟩ :=
    Library.twins_withBase ⟨grammar, registry⟩ hrenamed
  have hlines := Tokenizer.tokenizeFrom_coincide ⟨⟨grammar, registry⟩, engine, nesting⟩
    ⟨⟨grammar', registry⟩, engine, nesting⟩ htwins rfl rfl
    (.initial (Grammar.Counterpart.base.root hrenamed) hrenamed.scopeName) lines
  exact hlines.mono fun _ _ ⟨htokens, hstack⟩ => ⟨htokens, hstack.depth, hstack.scopes⟩

/-- Text in brackets, which may have brackets in it. -/
def crossed : Written.Grammar where
  scopeName := "source.x"
  patterns := [{ reference := "#brackets" }]
  repository := [
    ("word", { name := "word.x", matching := "ab", captures := [("0", { name := "all.x" })] }),
    ("brackets", { name := "in.x", opening := "<", closing := ">", patterns := [
      { reference := "#word" }, { reference := "#brackets" }] })]

/-- The same with the repository in another order. -/
def recrossed : Written.Grammar := { crossed with repository := crossed.repository.reverse }

def crossedEngine : Engine String := .answering [
  (("<", "<ab\n", 0), ⟨0, 1, [some ⟨0, 1⟩]⟩),
  (("ab", "<ab\n", 1), ⟨1, 3, [some ⟨1, 3⟩]⟩)]

theorem crossed_keyed : crossed.body.Keyed := by
  refine ⟨by decide, ⟨?_, ?_, trivial⟩, by decide, trivial, by decide, trivial, by decide, trivial,
    by decide, trivial, ?_, trivial⟩
  all_goals simp [Written.Rule.Keyed, Written.EntriesKeyed, Written.RulesKeyed]
  all_goals decide

theorem crossed_reorders : crossed.Reorders recrossed := by
  have hnil : Written.MapReorders [] [] := ⟨[], .nil, rfl⟩
  exact ⟨rfl, rfl, rfl, hnil, hnil, hnil, hnil, .refl _, _, .swap .., .refl _⟩

def crossing (grammar : Grammar String) :
    LineTokenizer (Tokenizer.Compiled String) (Stack String) :=
  Tokenizer.lineTokenizer ⟨⟨grammar, .empty⟩, crossedEngine, 100⟩

theorem compile_reordered_crossed : ∃ grammar grammar' f lines after after' compiled,
    Grammar.compile crossedEngine crossed = .ok grammar ∧
      Grammar.compile crossedEngine recrossed = .ok grammar' ∧ grammar' ≠ grammar ∧
      grammar.Renamed f grammar' ∧
      (crossing grammar).tokenizeLines ["<ab"] [] = .ok (lines, after) compiled ∧
      lines.map (·.map (·.scopes)) =
        [[["in.x", "source.x"], ["all.x", "word.x", "in.x", "source.x"]]] ∧
      (crossing grammar').tokenizeLines ["<ab"] [] = .ok (lines, after') compiled ∧
      after'.depth = after.depth ∧ after'.scopes = after.scopes := by
  have hrun : ∃ grammar, Grammar.compile crossedEngine crossed = .ok grammar ∧
      ∃ grammar', Grammar.compile crossedEngine recrossed = .ok grammar' ∧ grammar' ≠ grammar ∧
      ∃ run compiled, (crossing grammar).tokenizeLines ["<ab"] [] = .ok run compiled ∧
        run.1.map (·.map (·.scopes)) =
          [[["in.x", "source.x"], ["all.x", "word.x", "in.x", "source.x"]]] := by decide +kernel
  obtain ⟨grammar, hgrammar, grammar', hgrammar', hne, ⟨lines, after⟩, compiled, h, hscopes⟩ := hrun
  obtain ⟨_, f, hother, hrenamed, -, htokenizes⟩ :=
    Grammar.compile_reordered crossed_keyed crossed_reorders hgrammar
  obtain rfl := Except.ok.inj (hgrammar'.symm.trans hother)
  rcases htokenizes .empty 100 ["<ab"] [] with
    ⟨run, run', compiled', hrun, hrun', hlines, hdepth, hstack⟩ | ⟨e, compiled', hrun, -⟩
  · obtain ⟨rfl, rfl⟩ := EStateM.Result.ok.inj (h.symm.trans hrun)
    obtain ⟨lines', after'⟩ := run'
    obtain rfl : lines = lines' := hlines.symm
    exact ⟨grammar, grammar', f, lines, after, after', compiled, hgrammar, hgrammar', hne, hrenamed,
      h, hscopes, hrun', hdepth, hstack⟩
  · cases h.symm.trans hrun

end LineScopes
