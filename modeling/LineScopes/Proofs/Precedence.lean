import LineScopes.Proofs.FirstErrors
import LineScopes.Proofs.Resolution

/-!
# The last grammar of a scope name

The grammars that a case refers to are registered in their order, and each takes
the place of an earlier one of its scope name. So the last one of each scope name
counts, and nothing is left of those before it: a case comes to the same without
them.
-/

namespace LineScopes

namespace Registry

variable {registry other : Registry ρ} {grammar : Grammar ρ}

-- ---------------------------------------------------------------------------
-- Registries but for one scope name
-- ---------------------------------------------------------------------------

/-- The registries have the same grammars in the same order, leaving aside those of a scope name. -/
def AgreesBut (scope : String) (registry other : Registry ρ) : Prop :=
  registry.grammars.filter (·.scopeName ≠ scope) = other.grammars.filter (·.scopeName ≠ scope)

theorem insert_agreesBut (registry : Registry ρ) (grammar : Grammar ρ) :
    (registry.insert grammar).AgreesBut grammar.scopeName registry := by
  simp [AgreesBut, insert, List.filter_filter]

theorem AgreesBut.insert (h : registry.AgreesBut scope other) (grammar : Grammar ρ) :
    (registry.insert grammar).AgreesBut scope (other.insert grammar) := by
  unfold AgreesBut at h
  simp only [AgreesBut, Registry.insert, List.filter_cons]
  rw [List.filter_comm, h, List.filter_comm]

theorem AgreesBut.insert_eq (h : registry.AgreesBut grammar.scopeName other) :
    registry.insert grammar = other.insert grammar :=
  Registry.ext (congrArg (grammar :: ·) h)

-- ---------------------------------------------------------------------------
-- Scope names
-- ---------------------------------------------------------------------------

theorem mem_scopeNames_iff : scope ∈ registry.scopeNames ↔
    ∃ grammar, registry.get? scope = some grammar := by
  rw [scopeNames, List.mem_mergeSort, List.mem_map, get?, ← Option.isSome_iff_exists,
    List.find?_isSome]
  simp

theorem mem_scopeNames_insert : scope ∈ (registry.insert grammar).scopeNames ↔
    grammar.scopeName = scope ∨ scope ∈ registry.scopeNames := by
  rw [mem_scopeNames_iff, mem_scopeNames_iff]
  by_cases h : grammar.scopeName = scope
  · obtain rfl := h
    rw [get?_insert_self]
    exact ⟨fun _ => .inl rfl, fun _ => ⟨grammar, rfl⟩⟩
  · rw [get?_insert_of_ne _ (Ne.symm h), or_iff_right h]

theorem nodup_scopeNames (registry : Registry ρ) : registry.scopeNames.Nodup :=
  (List.mergeSort_perm ..).nodup_iff.mpr (List.pairwise_map.mpr registry.distinct)

end Registry

-- ---------------------------------------------------------------------------
-- References
-- ---------------------------------------------------------------------------

/-- The grammar is that of the last reference to one of the scope name. -/
def LastOf (load : String → Except ε (Grammar ρ)) (references : List String) (scope : String)
    (grammar : Grammar ρ) : Prop :=
  ∃ before reference after, references = before ++ reference :: after ∧
    load reference = .ok grammar ∧ grammar.scopeName = scope ∧
    ∀ later ∈ after, ∀ other, load later = .ok other → other.scopeName ≠ scope

theorem not_lastOf_nil {load : String → Except ε (Grammar ρ)} : ¬ LastOf load [] scope grammar := by
  rintro ⟨before, reference, after, hsplit, -⟩
  simp at hsplit

theorem lastOf_concat {load : String → Except ε (Grammar ρ)} {references : List String}
    {added : Grammar ρ} (h : load reference = .ok added) :
    LastOf load (references ++ [reference]) scope grammar ↔
      (added.scopeName = scope ∧ added = grammar) ∨
        (added.scopeName ≠ scope ∧ LastOf load references scope grammar) := by
  constructor
  · rintro ⟨before, last, after, hsplit, hlast, hscope, hafter⟩
    rcases List.eq_nil_or_concat' after with rfl | ⟨init, final, rfl⟩
    · obtain ⟨rfl, ⟨⟩⟩ := List.append_inj' hsplit rfl
      obtain rfl := Except.ok.inj (h.symm.trans hlast)
      exact .inl ⟨hscope, rfl⟩
    · have hsplit : references ++ [reference] = before ++ last :: init ++ [final] := by
        simpa using hsplit
      obtain ⟨rfl, ⟨⟩⟩ := List.append_inj' hsplit rfl
      obtain ⟨hinit, hfinal⟩ := List.forall_mem_append.mp hafter
      exact .inr ⟨hfinal reference (List.mem_singleton_self _) added h,
        before, last, init, rfl, hlast, hscope, hinit⟩
  · rintro (⟨hscope, rfl⟩ | ⟨hne, before, last, after, rfl, hlast, hscope, hafter⟩)
    · exact ⟨references, reference, [], rfl, h, hscope, nofun⟩
    · refine ⟨before, last, after ++ [reference], List.append_assoc .., hlast, hscope, ?_⟩
      refine List.forall_mem_append.mpr ⟨hafter, List.forall_mem_singleton.mpr ?_⟩
      intro other hother
      obtain rfl := Except.ok.inj (h.symm.trans hother)
      exact hne

namespace Registry

variable {engine : Engine ρ} {files : FileSystem} {references : List String} {registry : Registry ρ}

theorem load_eq (engine : Engine ρ) (files : FileSystem) (baseDir : String)
    (references : List String) :
    load engine files baseDir references =
      references.foldlM (fun registry reference => do
        return registry.insert
          (← (Grammar.loadFrom engine files baseDir reference).mapError (.map .load))) .empty := rfl

theorem get?_load (h : load engine files baseDir references = .ok registry) :
    registry.get? scope = some grammar ↔
      LastOf (Grammar.loadFrom engine files baseDir) references scope grammar := by
  induction h using load_induction with
  | empty => exact ⟨nofun, fun h => absurd h not_lastOf_nil⟩
  | @insert _ _ _ added _ hadded ih =>
    rw [lastOf_concat hadded, ← ih]
    by_cases hscope : added.scopeName = scope
    · obtain rfl := hscope
      rw [get?_insert_self]
      simp
    · rw [get?_insert_of_ne _ (Ne.symm hscope)]
      simp [hscope]

theorem mem_scopeNames_load (h : load engine files baseDir references = .ok registry) :
    scope ∈ registry.scopeNames ↔ ∃ reference ∈ references, ∃ grammar,
      Grammar.loadFrom engine files baseDir reference = .ok grammar ∧
        grammar.scopeName = scope := by
  induction h using load_induction with
  | empty => simp [scopeNames, empty]
  | insert hbefore hadded ih =>
    rw [mem_scopeNames_insert, ih, or_comm]
    simp [or_and_right, exists_or, hadded]

theorem load_eq_error_iff : load engine files baseDir references = .error e ↔
    ∃ cause, FirstError (Grammar.loadFrom engine files baseDir) references cause ∧
      cause.map CaseError.load = e := by
  rw [← FirstError.mapError]
  exact foldlM_eq_error_iff

theorem AgreesBut.foldlM {load : String → Except ε (Grammar ρ)}
    (h : registry.AgreesBut scope other) (hlater : later ∈ references)
    (hscope : ∀ grammar, load later = .ok grammar → grammar.scopeName = scope) :
    references.foldlM (fun registry reference => do return registry.insert (← load reference))
        registry =
      references.foldlM (fun registry reference => do return registry.insert (← load reference))
        other := by
  induction references generalizing registry other with
  | nil => contradiction
  | cons reference rest ih =>
    rw [List.foldlM_cons, List.foldlM_cons]
    cases hload : load reference with
    | error e => rfl
    | ok grammar =>
      simp only [ok_bind, pure_bind]
      by_cases hgrammar : grammar.scopeName = scope
      · rw [AgreesBut.insert_eq (hgrammar ▸ h)]
      · refine ih (h.insert grammar) ((List.mem_cons.mp hlater).resolve_left ?_)
        rintro rfl
        exact hgrammar (hscope grammar hload)

/-- A reference makes no difference before another one to its scope name. -/
theorem load_of_later {before after : List String}
    (hload : Grammar.loadFrom engine files baseDir reference = .ok grammar)
    (hlater : later ∈ after)
    (hscope : ∀ other, Grammar.loadFrom engine files baseDir later = .ok other →
      other.scopeName = grammar.scopeName) :
    load engine files baseDir (before ++ reference :: after) =
      load engine files baseDir (before ++ after) := by
  rw [load_eq, load_eq, List.foldlM_append, List.foldlM_append]
  refine bind_congr fun registry => ?_
  rw [List.foldlM_cons, hload]
  exact (registry.insert_agreesBut grammar).foldlM hlater
    fun other hother => hscope other (mapError_ok.mp hother)

theorem exists_load_iff : (∃ registry, load engine files baseDir references = .ok registry) ↔
    ∀ reference ∈ references, ∃ grammar,
      Grammar.loadFrom engine files baseDir reference = .ok grammar := by
  rw [exists_ok_iff, ← forall_not_firstError_iff]
  constructor
  · intro h cause hfirst
    exact h _ (load_eq_error_iff.mpr ⟨cause, hfirst, rfl⟩)
  · intro h e herror
    obtain ⟨cause, hfirst, -⟩ := load_eq_error_iff.mp herror
    exact h cause hfirst

end Registry

-- ---------------------------------------------------------------------------
-- Cases
-- ---------------------------------------------------------------------------

/-- A case comes to the same without a reference to a grammar, if a later reference is to one of the
same scope name or to none at all. If all references lead to grammars, exactly their scope names
are registered, each for the last one that has it. Otherwise the first one that does not is the
error. With and without the reference, the maps of a document are read as they are written; in the
program, where they are hash maps, two loads of one file may take their entries in different
orders. -/
theorem TestCase.run_withoutReplaced (engine : Engine ρ) (nesting : Nat) (files : FileSystem)
    (baseDir : String) (case : TestCase) :
    (∀ before reference after later grammar, case.grammars = before ++ reference :: after →
      Grammar.loadFrom engine files baseDir reference = .ok grammar →
      later ∈ after ++ case.grammarPath.toList →
      (∀ other, Grammar.loadFrom engine files baseDir later = .ok other →
        other.scopeName = grammar.scopeName) →
      TestCase.run { case with grammars := before ++ after } engine nesting files baseDir =
        case.run engine nesting files baseDir) ∧
    ((∃ registry, Registry.ofCase engine files baseDir case = .ok registry) ↔
      ∀ reference ∈ case.references, ∃ grammar,
        Grammar.loadFrom engine files baseDir reference = .ok grammar) ∧
    (∀ registry, Registry.ofCase engine files baseDir case = .ok registry →
      (∀ scope grammar, registry.get? scope = some grammar ↔
        LastOf (Grammar.loadFrom engine files baseDir) case.references scope grammar) ∧
      registry.scopeNames.Nodup ∧
      ∀ scope, scope ∈ registry.scopeNames ↔ ∃ reference ∈ case.references, ∃ grammar,
        Grammar.loadFrom engine files baseDir reference = .ok grammar ∧
          grammar.scopeName = scope) ∧
    ∀ e, Registry.ofCase engine files baseDir case = .error e ↔ ∃ cause,
      FirstError (Grammar.loadFrom engine files baseDir) case.references cause ∧
        cause.map CaseError.load = e := by
  refine ⟨?_, Registry.exists_load_iff, fun registry hregistry => ?_,
    fun e => Registry.load_eq_error_iff⟩
  · intro before reference after later grammar hgrammars hload hlater hscope
    have hreferences : case.references =
        before ++ reference :: (after ++ case.grammarPath.toList) := by
      rw [references, hgrammars, List.append_assoc, List.cons_append]
    rw [run_eq, run_eq, hreferences, Registry.load_of_later hload hlater hscope,
      ← List.append_assoc]
    rfl
  · exact ⟨fun scope grammar => Registry.get?_load hregistry,
      registry.nodup_scopeNames, fun scope => Registry.mem_scopeNames_load hregistry⟩

/-- Another grammar for one of the scope names, which has no patterns. -/
def replacedFiles : FileSystem
  | "old.yaml" => .ok "scopeName: source.y"
  | path => TestCase.bracketFiles path

def replacing : TestCase := { TestCase.brackets with grammars := ["old.yaml", "y.yaml"] }

theorem TestCase.run_withoutReplaced_old : ∃ old new : Grammar Regex.Compiled,
    Grammar.loadFrom Regex.engine replacedFiles "" "old.yaml" = .ok old ∧
      Grammar.loadFrom Regex.engine replacedFiles "" "y.yaml" = .ok new ∧
      new.scopeName = old.scopeName ∧ old.rules.size < new.rules.size ∧
      replacing.run Regex.engine 100 replacedFiles "" = .ok () ∧
      TestCase.run { replacing with grammars := ["y.yaml"] } Regex.engine 100 replacedFiles "" =
        .ok () := by
  have hloads : ∃ old, Grammar.loadFrom Regex.engine replacedFiles "" "old.yaml" = .ok old ∧
      ∃ new, Grammar.loadFrom Regex.engine replacedFiles "" "y.yaml" = .ok new ∧
        replacing.run Regex.engine 100 replacedFiles "" = .ok () ∧
        new.scopeName = old.scopeName ∧ old.rules.size < new.rules.size := by decide +kernel
  obtain ⟨old, hold, new, hnew, hrun, hscope, hne⟩ := hloads
  refine ⟨old, new, hold, hnew, hscope, hne, hrun, ?_⟩
  have hlater : ∀ other, Grammar.loadFrom Regex.engine replacedFiles "" "y.yaml" = .ok other →
      other.scopeName = old.scopeName := by
    intro other hother
    obtain rfl := Except.ok.inj (hnew.symm.trans hother)
    exact hscope
  rw [← hrun]
  exact (run_withoutReplaced Regex.engine 100 replacedFiles "" replacing).1 [] "old.yaml" ["y.yaml"]
    "y.yaml" old rfl hold (by decide) hlater

end LineScopes
