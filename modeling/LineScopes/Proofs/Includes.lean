import LineScopes.Proofs.Boundaries
import LineScopes.Proofs.Layout

/-!
# What includes of local names refer to

A rule that includes a local name refers to the entry of the nearest repository
around it that has one, its own repository first. An entry of patterns that is
nothing but an include is resolved where the patterns are, so that a repository
of its own has no part in that.
-/

namespace LineScopes

namespace Written

/-- The reference to the entry that a name means, if there is one. -/
def Rule.localReference (top : Rule) (layout : Path → RuleId) (path : Path) (name : String) :
    List PatternRef :=
  ((top.resolve? path name).map fun entry => PatternRef.rule (layout entry)).toList

theorem Rule.meaning?_local (top : Rule) (layout : Path → RuleId) (path : Path) (name : String) :
    (top.meaning? layout path ("#" ++ name)).toList = top.localReference layout path name := by
  have htext : ("#" ++ name).toList = '#' :: name.toList := by simp
  rw [Rule.meaning?, htext]
  simp only [String.ofList_toList]
  rfl

/-- The patterns of a compiled rule: what its own include comes to, and each of its entries. -/
structure Rule.Refers (top : Rule) (layout : Path → RuleId) (path : Path) (rule : Rule)
    (own : List PatternRef) (entries : List (List PatternRef)) : Prop where
  noInclude : rule.ownInclude? = none → own = []
  own : ∀ name, rule.ownInclude? = some ("#" ++ name) → own = top.localReference layout path name
  length : entries.length = rule.inner.length
  rules : ∀ (index : Nat) entry, rule.inner[index]? = some entry → entry.onlyInclude? = none →
    entries[index]? = some [.rule (layout (.pattern index :: path))]
  references : ∀ (index : Nat) entry name, rule.inner[index]? = some entry →
    entry.onlyInclude? = some ("#" ++ name) →
      entries[index]? = some (top.localReference layout path name)

theorem Rule.refers_contributions (top : Rule) (layout : Path → RuleId) (path : Path)
    (rule : Rule) :
    top.Refers layout path rule (rule.ownInclude?.bind (top.meaning? layout path)).toList
      (top.contributions layout path rule) where
  noInclude hnone := by rw [hnone]; rfl
  own name howned := by rw [howned, Option.bind_some, Rule.meaning?_local]
  length := by simp [Rule.contributions]
  rules index entry hentry hnone := by simp [Rule.contributions, hentry, hnone]
  references index entry name hentry hname := by
    simp [Rule.contributions, hentry, hname, Rule.meaning?_local]

theorem Rule.patterns_compiled {engine : Engine ρ} {rule : Rule} {shape : Shape ρ}
    (hshape : rule.shape engine = .ok shape) (hmatching : rule.matching = none) (top : Rule)
    (layout : Path → RuleId) (path : Path) :
    (top.compiled layout path rule shape).patterns = top.compiledPatterns layout path rule := by
  cases shape with
  | matching name regex =>
    simp only [Rule.shape, hmatching] at hshape
    split at hshape
    · contradiction
    all_goals
      repeat obtain ⟨_, -, hshape⟩ := bind_ok.mp hshape
      cases hshape
  | beginEnd | beginWhile | group => rfl

namespace Grammar

variable {written : Grammar} {engine : Engine ρ} {layout : Path → RuleId}
  {grammar : LineScopes.Grammar ρ} {path target : Path} {rule : Rule}
  {name : String}

theorem Lays.refers (h : written.Lays engine layout grammar)
    (hrule : written.body.at? path = some rule) (hcompiled : path.IsCompiled)
    (hmatching : rule.matching = none) :
    ∃ compiled own entries, grammar.rules[layout path]? = some compiled ∧
      compiled.patterns = own ++ entries.flatten ∧
      written.body.Refers layout path rule own entries := by
  obtain ⟨shape, hshape, hplace⟩ := h.rule path rule hrule hcompiled
  refine ⟨_, _, _, hplace, ?_, Rule.refers_contributions written.body layout path rule⟩
  rw [Rule.patterns_compiled hshape hmatching]
  rfl

/-- What a name means has been compiled. -/
theorem Lays.resolves (h : written.Lays engine layout grammar) (hcompiled : path.IsCompiled)
    (htarget : written.body.resolve? path name = some target) :
    ∃ entry shape, written.body.at? target = some entry ∧ entry.shape engine = .ok shape ∧
      grammar.rules[layout target]? = some (written.body.compiled layout target entry shape) := by
  obtain ⟨entry, hentry⟩ := Option.isSome_iff_exists.mp (Rule.resolve?_eq_some htarget).1
  obtain ⟨shape, hshape, hplace⟩ :=
    h.rule target entry hentry (Rule.resolve?_isCompiled hcompiled htarget)
  exact ⟨entry, shape, hentry, hshape, hplace⟩

end Grammar

end Written

/-- Each include of a local name refers to the rule of the entry that the name means, and to
nothing if it means none. For an include in a rule of its own, the name is looked up from that
rule on; for an entry that is nothing but an include, from the rule around it. That is the same
unless the entry itself has a repository with the name. -/
theorem Grammar.compile_resolves {engine : Engine ρ} {written : Written.Grammar}
    {grammar : Grammar ρ} (hnamed : written.body.Named)
    (h : Grammar.compile engine written = .ok grammar) :
    ∃ layout, written.Lays engine layout grammar ∧
      (∀ path rule, written.body.at? path = some rule → path.IsCompiled → rule.matching = none →
        ∃ compiled own entries, grammar.rules[layout path]? = some compiled ∧
          compiled.patterns = own ++ entries.flatten ∧
          written.body.Refers layout path rule own entries) ∧
      (∀ path name target, path.IsCompiled → written.body.resolve? path name = some target →
        ∃ entry shape, written.body.at? target = some entry ∧ entry.shape engine = .ok shape ∧
          grammar.rules[layout target]? =
            some (written.body.compiled layout target entry shape)) ∧
      ∀ path index entry name, written.body.at? (.reference index :: path) = some entry →
        (written.body.resolve? path name = written.body.resolve? (.reference index :: path) name ↔
          entry.repository.lookup name = none) := by
  obtain ⟨layout, hlays⟩ := Grammar.compile_lays hnamed h
  exact ⟨layout, hlays, fun _ _ => hlays.refers, fun _ _ _ => hlays.resolves,
    fun _ _ _ _ => Written.Rule.resolve?_eq_cons_iff⟩

/-- A name for two rules, the one around the other. -/
def shadowing : Written.Grammar where
  scopeName := "source.x"
  patterns := [
    { patterns := [{ reference := "#a" }],
      repository := [("a", { name := "inner.x", matching := "x" })] },
    { reference := "#a" }]
  repository := [("a", { name := "outer.x", matching := "x" })]

def shadowed : Grammar String where
  scopeName := "source.x"
  name := none
  rules := #[.matching "outer.x" "x" [], .matching "inner.x" "x" [], .group none [.rule 1],
    .group none [.rule 2, .rule 0]]
  root := 3
  repository := [("a", 0)]

theorem shadowing_named : shadowing.body.Named := by
  refine ⟨by decide, ?_, trivial, trivial, trivial, trivial, ?_⟩ <;>
    simp [shadowing, Written.Rule.Named, Written.EntriesNamed, Written.RulesNamed]

theorem compile_shadowing : Grammar.compile (.answering []) shadowing = .ok shadowed := by
  decide +kernel

theorem compile_resolves_shadowing : ∃ layout : Written.Path → RuleId,
    shadowed.rules[layout [.entry "a"]]? = some (.matching "outer.x" "x" []) ∧
      shadowed.rules[layout [.entry "a", .pattern 0]]? = some (.matching "inner.x" "x" []) ∧
      shadowed.rules[layout [.pattern 0]]? =
        some (.group none [.rule (layout [.entry "a", .pattern 0])]) ∧
      shadowed.rules[layout []]? =
        some (.group none [.rule (layout [.pattern 0]), .rule (layout [.entry "a"])]) := by
  obtain ⟨layout, hlays, -⟩ := Grammar.compile_resolves shadowing_named compile_shadowing
  have hcompiled : Written.Path.IsCompiled [.entry "a", .pattern 0] := by
    simp [Written.Path.IsCompiled]
  -- a single match has no captures here, so that its rule is what its shape is
  have hmatch : ∀ path name, path.IsCompiled →
      shadowing.body.at? path = some { name := some name, matching := "x" } →
      shadowed.rules[layout path]? = some (.matching name "x" []) := by
    intro path name hcompiled hrule
    obtain ⟨_, ⟨⟩, hplace⟩ := hlays.rule path _ hrule hcompiled
    simpa [Written.Rule.compiled, Written.Rule.compiledCaptures, Written.Rule.capturesFor,
      Written.numbered, Written.Rule.captureEntries, Shape.rule, Written.lastOfEach] using hplace
  obtain ⟨_, ⟨⟩, haround⟩ :=
    hlays.rule [.pattern 0] _ rfl (hcompiled.of_suffix (List.suffix_cons ..))
  obtain ⟨_, ⟨⟩, htop⟩ := hlays.rule [] _ rfl (hcompiled.of_suffix (List.nil_suffix ..))
  exact ⟨layout, hmatch _ "outer.x" (by simp [Written.Path.IsCompiled]) rfl,
    hmatch _ "inner.x" hcompiled rfl, haround, htop⟩

/-- An entry that is nothing but an include, with a repository that has the name. -/
def bypassing : Written.Grammar where
  scopeName := "source.x"
  patterns := [
    { reference := "#a", repository := [("a", { name := "inner.x", matching := "x" })] }]
  repository := [("a", { name := "outer.x", matching := "x" })]

def bypassed : Grammar String where
  scopeName := "source.x"
  name := none
  rules := #[.matching "outer.x" "x" [], .group none [.rule 0]]
  root := 1
  repository := [("a", 0)]

/-- The name means the entry of the repository right there, which no rule is compiled from. The
include refers to the entry of the top level. -/
theorem bypassing_refers_outer :
    Grammar.compile (.answering []) bypassing = .ok bypassed ∧
      bypassing.body.at? [.reference 0] =
        some { reference := "#a", repository := [("a", { name := "inner.x", matching := "x" })] } ∧
      bypassing.body.resolve? [.reference 0] "a" = some [.entry "a", .reference 0] ∧
      bypassing.body.at? [.entry "a", .reference 0] =
        some { name := "inner.x", matching := "x" } ∧
      (∀ rule ∈ bypassed.rules, rule.name ≠ "inner.x") ∧
      (bypassed.rule bypassed.root).patterns = [.rule 0] ∧
      (bypassed.rule 0).name = "outer.x" := by
  refine ⟨by decide +kernel, rfl, by decide +kernel, rfl, by decide, rfl, rfl⟩

end LineScopes
