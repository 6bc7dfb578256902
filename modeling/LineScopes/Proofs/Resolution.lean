import LineScopes.Proofs.FirstErrors
import LineScopes.Proofs.OrderIndependence
import LineScopes.Proofs.StackEquality
import LineScopes.Suite.Resolution
import Mathlib.Data.List.Induction

/-!
# A grammar by its path or by its scope name

A case that gives the path of its grammar has that grammar twice: it is
tokenized with, and it is registered. What patterns mean is not looked up in
the registry under the scope name of the grammar that is tokenized, so that
the registered one might as well be any other. The case comes to the same
when its grammar is registered only and given by its scope name.
-/

namespace LineScopes

-- ---------------------------------------------------------------------------
-- Registries
-- ---------------------------------------------------------------------------

/-- The grammar that a reference leads to, seen from a directory. -/
abbrev Grammar.loadFrom (engine : Engine ρ) (files : FileSystem) (baseDir reference : String) :
    Except (Halt GrammarError) (Grammar ρ) :=
  load engine files (Path.join baseDir reference)

namespace Registry

theorem get?_insert_self (registry : Registry ρ) (grammar : Grammar ρ) :
    (registry.insert grammar).get? grammar.scopeName = some grammar := by
  simp [get?, insert]

theorem get?_insert_of_ne (registry : Registry ρ) {grammar : Grammar ρ}
    (h : scope ≠ grammar.scopeName) :
    (registry.insert grammar).get? scope = registry.get? scope := by
  -- what `insert` drops has another scope name, so that the search passes it over in any case
  have hother : ∀ other : Grammar ρ, other.scopeName = scope →
      other.scopeName ≠ grammar.scopeName := fun _ hscope => hscope ▸ h
  simp only [get?, insert, List.find?_cons, decide_eq_false h.symm, List.find?_filter]
  congr 1
  funext other
  rw [Bool.eq_iff_iff]
  simpa using hother other

theorem ruleCount_insert (registry : Registry ρ) {grammar copy : Grammar ρ}
    (hname : copy.scopeName = grammar.scopeName) (hsize : copy.rules.size = grammar.rules.size) :
    (registry.insert copy).ruleCount = (registry.insert grammar).ruleCount := by
  simp only [ruleCount, insert, List.foldl_cons, hname, hsize]

theorem load_concat (engine : Engine ρ) (files : FileSystem) (baseDir : String)
    (references : List String) (reference : String) :
    load engine files baseDir (references ++ [reference]) = do
      let registry ← load engine files baseDir references
      let grammar ← (Grammar.load engine files (Path.join baseDir reference)).mapError (.map .load)
      return registry.insert grammar := by
  simp only [load, List.foldlM_append, List.foldlM_cons, List.foldlM_nil, bind_pure]

theorem load_concat_ok {registry : Registry ρ} :
    load engine files baseDir (references ++ [reference]) = .ok registry ↔
      ∃ before grammar, load engine files baseDir references = .ok before ∧
        Grammar.loadFrom engine files baseDir reference = .ok grammar ∧
        before.insert grammar = registry := by
  rw [load_concat, bind_ok]
  refine exists_congr fun before => ?_
  rw [bind_ok, ← exists_and_left]
  refine exists_congr fun grammar => ?_
  rw [mapError_ok]
  exact and_congr_right' (and_congr_right' ⟨Except.ok.inj, congrArg _⟩)

theorem load_induction {motive : ∀ (references : List String) (registry : Registry ρ),
      load engine files baseDir references = .ok registry → Prop}
    (empty : motive [] .empty rfl)
    (insert : ∀ {references reference before grammar}
      (hbefore : load engine files baseDir references = .ok before)
      (hgrammar : Grammar.loadFrom engine files baseDir reference = .ok grammar),
      motive references before hbefore →
      motive (references ++ [reference]) (before.insert grammar)
        (load_concat_ok.mpr ⟨before, grammar, hbefore, hgrammar, rfl⟩))
    {references : List String} {registry : Registry ρ}
    (h : load engine files baseDir references = .ok registry) : motive references registry h := by
  induction references using List.reverseRecOn generalizing registry with
  | nil =>
    cases h
    exact empty
  | append_singleton references reference ih =>
    obtain ⟨before, grammar, hbefore, hgrammar, rfl⟩ := load_concat_ok.mp h
    exact insert hbefore hgrammar (ih hbefore)

end Registry

-- ---------------------------------------------------------------------------
-- What is registered in the place of the base grammar
-- ---------------------------------------------------------------------------

/-- The libraries differ in nothing but what is registered under the scope name of the grammar that
is tokenized. -/
structure Library.Shadowed (library library' : Library ρ) : Prop where
  base : library'.base = library.base
  get? : ∀ scope, scope ≠ library.base.scopeName →
    library'.registry.get? scope = library.registry.get? scope
  ruleCount : library'.ruleCount = library.ruleCount

namespace Library

variable {library library' : Library ρ}

theorem shadowed_insert (base : Grammar ρ) (registry : Registry ρ) {copy : Grammar ρ}
    (hname : copy.scopeName = base.scopeName) (hsize : copy.rules.size = base.rules.size) :
    Shadowed ⟨base, registry.insert base⟩ ⟨base, registry.insert copy⟩ where
  base := rfl
  get? scope h := by
    rw [registry.get?_insert_of_ne h, registry.get?_insert_of_ne (hname ▸ h)]
  ruleCount := congrArg (base.rules.size + ·) (registry.ruleCount_insert hname hsize)

/-- Nothing but the grammar that is tokenized is known by its scope name. -/
theorem Names.eq_base (h : library.Names grammar)
    (hname : grammar.scopeName = library.base.scopeName) : grammar = library.base := by
  unfold Names at h
  rw [hname, grammar?_base] at h
  exact (Option.some.inj h).symm

namespace Shadowed

theorem grammar? (h : library.Shadowed library') : library'.grammar? = library.grammar? := by
  funext scope
  unfold Library.grammar?
  rw [h.base]
  split
  · rfl
  · next hscope => exact h.get? scope (Ne.symm hscope)

theorem resolve (h : library.Shadowed library') : library'.resolve = library.resolve := by
  funext grammar pattern
  cases pattern with
  | rule | self => rfl
  | base => simp only [Library.resolve, h.base]
  | external scope name => cases name <;> simp only [Library.resolve, h.grammar?]

theorem expand (h : library.Shadowed library') (depth : Nat) :
    library'.expand depth = library.expand depth := by
  have hvisit : library'.visit = library.visit := by
    funext follow grammar expansion pattern
    simp only [visit, h.resolve]
  induction depth with
  | zero =>
    funext grammar patterns expansion
    rw [expand_zero, expand_zero, hvisit]
  | succ depth ih =>
    funext grammar patterns expansion
    rw [expand_succ, expand_succ, hvisit, ih]

theorem twins (h : library.Shadowed library') : library.Twins (· = ·) library' where
  rule := by
    rintro ref _ rfl
    exact ⟨id, ref.rule.rename_id.symm, fun _ => rfl⟩
  key := by
    rintro a _ b _ rfl rfl
    rfl
  candidates := by
    rintro ref _ rfl
    rw [List.forall₂_eq_eq_eq, candidates, candidates, h.expand, h.ruleCount]
  ruleCount := h.ruleCount

end Shadowed

end Library

-- ---------------------------------------------------------------------------
-- Tokenizers
-- ---------------------------------------------------------------------------

theorem Coincide.eq {x y : EStateM ε σ α} (h : Coincide (· = ·) x y) : x = y := by
  funext s
  rcases h s with ⟨a, b, s', hx, hy, rfl⟩ | ⟨e, s', hx, hy⟩
  · exact hx.trans hy.symm
  · exact hx.trans hy.symm

theorem Frame.twins_eq {frame frame' : Frame ρ} :
    frame.Twins (· = ·) frame' ↔ frame = frame' := by
  refine ⟨?_, ?_⟩
  · rintro ⟨rfl⟩
    rfl
  · rintro rfl
    exact .mk rfl

theorem Stack.twins_eq {stack stack' : Stack ρ} :
    stack.Twins (· = ·) stack' ↔ stack = stack' := by
  have hframe : Frame.Twins (ρ := ρ) (· = ·) = (· = ·) := by
    funext frame frame'
    exact propext Frame.twins_eq
  refine ⟨?_, ?_⟩
  · rintro ⟨hroot, hframes⟩
    rw [hframe, List.forall₂_eq_eq_eq] at hframes
    rw [Frame.twins_eq.mp hroot, hframes]
  · rintro rfl
    refine .mk (Frame.twins_eq.mpr rfl) ?_
    rw [hframe, List.forall₂_eq_eq_eq]

/-- What is registered under the scope name of the grammar that is tokenized makes no difference. -/
theorem Tokenizer.lineTokenizer_shadowed {tokenizer tokenizer' : Tokenizer ρ}
    (h : tokenizer.toLibrary.Shadowed tokenizer'.toLibrary)
    (hengine : tokenizer'.engine = tokenizer.engine)
    (hnesting : tokenizer'.maxNesting = tokenizer.maxNesting) :
    tokenizer'.lineTokenizer = tokenizer.lineTokenizer := by
  have hline : ∀ stack line,
      tokenizer.tokenizeNext stack line = tokenizer'.tokenizeNext stack line := by
    intro stack line
    have hcoincide := tokenizer.tokenizeNext_coincide tokenizer' h.twins hengine hnesting
      (Stack.twins_eq.mpr rfl : stack.Twins (· = ·) stack) line
    refine Coincide.eq (hcoincide.mono ?_)
    rintro ⟨tokens, after⟩ ⟨_, after'⟩ ⟨rfl, hafter⟩
    obtain rfl : after = after' := Stack.twins_eq.mp hafter
    rfl
  unfold Tokenizer.lineTokenizer Tokenizer.initialStack
  rw [h.base]
  congr 1
  funext stack line
  exact (hline stack line).symm

-- ---------------------------------------------------------------------------
-- Cases
-- ---------------------------------------------------------------------------

namespace TestCase

/-- The case with the grammar at its path registered and given by its scope name. -/
def byScopeName (case : TestCase) (path scope : String) : TestCase :=
  { case with
    grammars := case.grammars ++ [path]
    grammarPath := none
    grammarScopeName := some scope }

/-- Tokenizes and validates the lines of a case with a fresh tokenizer. -/
def runWith (case : TestCase) (tokenizer : Tokenizer ρ) : Except (Halt CaseError) Unit :=
  outcome (tokenizer.lineTokenizer.drive case.lines) []

theorem run_eq (case : TestCase) (engine : Engine ρ) (nesting : Nat) (files : FileSystem)
    (baseDir : String) :
    case.run engine nesting files baseDir = (do
      let registry ← Registry.load engine files baseDir case.references
      let base ← case.grammar engine files baseDir registry
      case.runWith ⟨⟨base, registry⟩, engine, nesting⟩) := by
  refine bind_congr fun registry => bind_congr fun base => ?_
  unfold runWith outcome EStateM.run
  dsimp only
  generalize LineTokenizer.drive _ case.lines [] = result
  cases result <;> rfl

section

variable {engine : Engine ρ} {files : FileSystem} {case : TestCase} {grammar : Grammar ρ}
  (hload : Grammar.load engine files (Path.join baseDir path) = .ok grammar)
include hload

theorem load_references {references : List String} :
    Registry.load engine files baseDir (references ++ [path]) = (do
      let registry ← Registry.load engine files baseDir references
      return registry.insert grammar) := by
  rw [Registry.load_concat, hload]
  rfl

theorem run_of_path (hpath : case.grammarPath = some path) :
    case.run engine nesting files baseDir = (do
      let registry ← Registry.load engine files baseDir case.grammars
      case.runWith ⟨⟨grammar, registry.insert grammar⟩, engine, nesting⟩) := by
  have hreferences : case.references = case.grammars ++ [path] := by
    rw [references, hpath]
    rfl
  have hgrammar : ∀ registry, case.grammar engine files baseDir registry = .ok grammar := by
    intro registry
    simp only [TestCase.grammar, hpath, hload]
    rfl
  rw [run_eq, hreferences, load_references hload, bind_assoc]
  simp only [hgrammar, pure_bind]
  rfl

theorem run_of_scopeName :
    (case.byScopeName path grammar.scopeName).run engine nesting files baseDir = (do
      let registry ← Registry.load engine files baseDir case.grammars
      case.runWith ⟨⟨grammar, registry.insert grammar⟩, engine, nesting⟩) := by
  have hreferences : (case.byScopeName path grammar.scopeName).references =
      case.grammars ++ [path] := List.append_nil _
  have hgrammar : ∀ registry : Registry ρ,
      (case.byScopeName path grammar.scopeName).grammar engine files baseDir
        (registry.insert grammar) = .ok grammar := by
    intro registry
    simp only [TestCase.grammar, byScopeName, Option.bind_some, registry.get?_insert_self]
  rw [run_eq, hreferences, load_references hload, bind_assoc]
  simp only [hgrammar, pure_bind]
  rfl

end

/-- A case with a grammar path comes to what it comes to with that grammar registered and given by
its scope name. The grammar is registered in both, but where it is tokenized with at the same time,
none of its registered rules is ever open: any other grammar of as many rules might be registered
under its scope name. Both cases read every map of a document in the order in which it is written.
The program's hash maps may give their entries in another order at each load, which changes no more
than the order of the rules and, of several causes, the one a failure names. -/
theorem run_byScopeName (engine : Engine ρ) (nesting : Nat) (files : FileSystem) (baseDir : String)
    {case : TestCase} {grammar : Grammar ρ} (hpath : case.grammarPath = some path)
    (hload : Grammar.load engine files (Path.join baseDir path) = .ok grammar) :
    case.run engine nesting files baseDir =
        (case.byScopeName path grammar.scopeName).run engine nesting files baseDir ∧
      ∀ registry copy, Registry.load engine files baseDir case.grammars = .ok registry →
        copy.scopeName = grammar.scopeName → copy.rules.size = grammar.rules.size →
          let tokenizer : Tokenizer ρ := ⟨⟨grammar, registry.insert copy⟩, engine, nesting⟩
          case.run engine nesting files baseDir = case.runWith tokenizer ∧
            ∀ stack, tokenizer.Reachable stack → ∀ frame ∈ stack.frames,
              frame.owner.grammar.scopeName = grammar.scopeName →
                frame.owner.grammar = grammar := by
  refine ⟨(run_of_path hload hpath).trans (run_of_scopeName hload).symm, ?_⟩
  intro registry copy hregistry hname hsize tokenizer
  refine ⟨?_, fun stack hstack frame hmem hframe => ?_⟩
  · let registered : Tokenizer ρ := ⟨⟨grammar, registry.insert grammar⟩, engine, nesting⟩
    have hsame : tokenizer.lineTokenizer = registered.lineTokenizer :=
      Tokenizer.lineTokenizer_shadowed (Library.shadowed_insert grammar registry hname hsize) rfl
        rfl
    rw [run_of_path hload hpath, hregistry, runWith, hsame]
    rfl
  · exact (hstack.names frame hmem).eq_base hframe

/-- Two grammars that include each other. -/
def bracketFiles : FileSystem
  | "x.yaml" => .ok ("\n".intercalate
    ["scopeName: source.x", "patterns:", "- match: a", "  name: a.x", "- include: source.y"])
  | "y.yaml" => .ok ("\n".intercalate
    ["scopeName: source.y", "patterns:", "- begin: <", "  end: '>'", "  name: in.y", "  patterns:",
      "  - include: source.x"])
  | _ => .error .noSuchFile

def brackets : TestCase where
  grammarPath := some "x.yaml"
  grammars := ["y.yaml"]
  lines := [
    { line := "<a", tokens := [
      { value := "<", scopes := ["source.x", "in.y"] },
      { value := "a", scopes := ["source.x", "in.y", "a.x"] }] },
    { line := "<>", tokens := [
      { value := "<", scopes := ["source.x", "in.y", "in.y"] },
      { value := ">", scopes := ["source.x", "in.y", "in.y"] }] }]

/-- In the last run, the registered grammar has no regular expressions at all. -/
theorem run_byScopeName_brackets : ∃ (grammar copy : Grammar Regex.Compiled)
    (registry : Registry Regex.Compiled),
    Grammar.load Regex.engine bracketFiles (Path.join "" "x.yaml") = .ok grammar ∧
      Registry.load Regex.engine bracketFiles "" ["y.yaml"] = .ok registry ∧
      copy = { grammar with rules := grammar.rules.map fun _ => .placeholder } ∧
      brackets.run Regex.engine 100 bracketFiles "" = .ok () ∧
      (brackets.byScopeName "x.yaml" grammar.scopeName).run Regex.engine 100 bracketFiles "" =
        .ok () ∧
      brackets.runWith ⟨⟨grammar, registry.insert copy⟩, Regex.engine, 100⟩ = .ok () := by
  have hloads : ∃ grammar,
      Grammar.load Regex.engine bracketFiles (Path.join "" "x.yaml") = .ok grammar ∧
      ∃ registry, Registry.load Regex.engine bracketFiles "" ["y.yaml"] = .ok registry ∧
        brackets.run Regex.engine 100 bracketFiles "" = .ok () := by decide +kernel
  obtain ⟨grammar, hgrammar, registry, hregistry, hrun⟩ := hloads
  have hpath : brackets.grammarPath = some "x.yaml" := rfl
  obtain ⟨hsame, hcopies⟩ := run_byScopeName Regex.engine 100 bracketFiles "" hpath hgrammar
  obtain ⟨hcopy, -⟩ := hcopies registry
    { grammar with rules := grammar.rules.map fun _ => .placeholder } hregistry rfl Array.size_map
  exact ⟨grammar, _, registry, hgrammar, hregistry, rfl, hrun, hsame.symm.trans hrun,
    hcopy.symm.trans hrun⟩

end TestCase

end LineScopes
