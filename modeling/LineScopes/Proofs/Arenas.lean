import LineScopes.Grammar.Outline
import LineScopes.Proofs.Layout

/-!
# Closed arenas

A compiled grammar has stored the places of rules: of its top level, of the
entries of its repository, and in its rules those of their captures and
patterns. Each of them is the place of a rule of the document, and none lies
outside the arena.
-/

namespace LineScopes

-- ---------------------------------------------------------------------------
-- Places that are stored
-- ---------------------------------------------------------------------------

/-- A place that a grammar keeps, for its top level, in its repository or in a rule. -/
inductive Grammar.Stores (grammar : Grammar ρ) : RuleId → Prop
  | root : Stores grammar grammar.root
  | repository {name id} : (name, id) ∈ grammar.repository → Stores grammar id
  | mention {rule id} : rule ∈ grammar.rules → id ∈ rule.mentions → Stores grammar id

/-- No place that is stored lies outside the arena. -/
def Grammar.IsClosed (grammar : Grammar ρ) : Prop :=
  ∀ id, grammar.Stores id → id < grammar.rules.size

theorem Grammar.stores_of_mentions {grammar : Grammar ρ} {id target : RuleId}
    (h : target ∈ (grammar.rule id).mentions) : grammar.Stores target := by
  unfold Grammar.rule at h
  cases hrule : grammar.rules[id]? with
  | none =>
    rw [hrule] at h
    contradiction
  | some rule =>
    rw [hrule] at h
    exact .mention (Array.mem_of_getElem? hrule) h

theorem Rule.mentions_of_patterns {rule : Rule ρ} {id : RuleId} (h : .rule id ∈ rule.patterns) :
    id ∈ rule.mentions := by
  have hlocal : id ∈ rule.patterns.filterMap PatternRef.local? :=
    List.mem_filterMap.mpr ⟨_, h, rfl⟩
  cases rule with
  | matching => contradiction
  | group => exact hlocal
  | beginEnd | beginWhile => exact List.mem_append_left _ (List.mem_append_left _ hlocal)

theorem Rule.mentions_of_closingCaptures {rule : Rule ρ} (h : capture ∈ rule.closingCaptures) :
    capture.2 ∈ rule.mentions := by
  cases rule with
  | beginEnd => exact List.mem_append_right _ (List.mem_map_of_mem h)
  | _ => contradiction

theorem Rule.mentions_of_conditionCaptures {rule : Rule ρ}
    (h : capture ∈ rule.conditionCaptures) : capture.2 ∈ rule.mentions := by
  cases rule with
  | beginWhile => exact List.mem_append_right _ (List.mem_map_of_mem h)
  | _ => contradiction

-- ---------------------------------------------------------------------------
-- Laid out rules
-- ---------------------------------------------------------------------------

namespace Written

/-- A place of a rule of the document that is compiled. -/
def Grammar.IsPlace (written : Grammar) (layout : Path → RuleId) (id : RuleId) : Prop :=
  ∃ path rule, written.body.at? path = some rule ∧ path.IsCompiled ∧ layout path = id

theorem lastOfEach_subset (captures : List (Nat × RuleId)) : lastOfEach captures ⊆ captures := by
  induction captures with
  | nil => exact List.Subset.refl _
  | cons capture rest ih =>
    obtain ⟨group, id⟩ := capture
    rw [lastOfEach]
    split
    · exact List.Subset.trans ih (List.subset_cons_self ..)
    · exact List.cons_subset_cons _ ih

theorem lastOfEach_pairwise {captures : List (Nat × RuleId)}
    (h : captures.Pairwise fun lower upper => lower.1 ≤ upper.1) :
    (lastOfEach captures).Pairwise fun lower upper => lower.1 < upper.1 := by
  induction captures with
  | nil => exact .nil
  | cons capture rest ih =>
    obtain ⟨group, id⟩ := capture
    obtain ⟨hfirst, hrest⟩ := List.pairwise_cons.mp h
    rw [lastOfEach]
    split
    · exact ih hrest
    · next hnone =>
      refine List.pairwise_cons.mpr ⟨fun capture hmem => ?_, ih hrest⟩
      have hle := hfirst capture (lastOfEach_subset rest hmem)
      have hne : group ≠ capture.1 := by
        simpa using List.lookup_eq_none_iff.mp (Option.not_isSome_iff_eq_none.mp hnone) capture hmem
      exact Nat.lt_of_le_of_ne hle hne

theorem Rule.compiledCaptures_pairwise (layout : Path → RuleId) (path : Path) (rule : Rule)
    (second : Bool) :
    (rule.compiledCaptures layout path second).Pairwise fun lower upper => lower.1 < upper.1 := by
  refine lastOfEach_pairwise (List.pairwise_map.mp ?_)
  have hgroups : ((rule.capturesFor second).mapIdx fun rank capture =>
      (capture.1, layout (.capture second rank :: path))).map (·.1) =
        (rule.capturesFor second).map (·.1) := List.ext_getElem (by simp) (by simp)
  rw [hgroups]
  exact List.pairwise_map.mpr (Compile.pairwise_inOrder _)

theorem Rule.mentions_compiled {top rule : Rule} {layout : Path → RuleId} {path : Path}
    {id : RuleId} {shape : Shape ρ} (h : id ∈ (top.compiled layout path rule shape).mentions) :
    (∃ second group, (group, id) ∈ rule.compiledCaptures layout path second) ∨
      .rule id ∈ top.compiledPatterns layout path rule := by
  have hcapture : ∀ second, id ∈ (rule.compiledCaptures layout path second).map (·.2) →
      ∃ second group, (group, id) ∈ rule.compiledCaptures layout path second := by
    intro second hmem
    obtain ⟨⟨group, _⟩, hcapture, rfl⟩ := List.mem_map.mp hmem
    exact ⟨second, group, hcapture⟩
  have hpattern : id ∈ (top.compiledPatterns layout path rule).filterMap PatternRef.local? →
      .rule id ∈ top.compiledPatterns layout path rule := by
    intro hmem
    obtain ⟨pattern, hpattern, hlocal⟩ := List.mem_filterMap.mp hmem
    cases pattern with
    | rule target =>
      obtain rfl := Option.some.inj hlocal
      exact hpattern
    | _ => contradiction
  cases shape with
  | matching => exact .inl (hcapture false h)
  | group => exact .inr (hpattern h)
  | beginEnd | beginWhile =>
    rcases List.mem_append.mp h with h | h
    · rcases List.mem_append.mp h with h | h
      · exact .inr (hpattern h)
      · exact .inl (hcapture false h)
    · exact .inl (hcapture true h)

namespace Grammar

variable {written : Grammar} {layout : Path → RuleId} {path : Path} {rule : Rule} {id : RuleId}

theorem isPlace_part (hrule : written.body.at? path = some rule) (hcompiled : path.IsCompiled)
    {part : Part} (hpart : (rule.part? part).isSome)
    (hreference : ∀ index, part ≠ .reference index) :
    written.IsPlace layout (layout (part :: path)) := by
  obtain ⟨inner, hinner⟩ := Option.isSome_iff_exists.mp hpart
  refine ⟨part :: path, inner, by rw [Rule.at?, hrule]; exact hinner, fun index hmem => ?_, rfl⟩
  rcases List.mem_cons.mp hmem with hfirst | hmem
  · exact hreference index hfirst.symm
  · exact hcompiled index hmem

theorem isPlace_of_meaning? (hcompiled : path.IsCompiled)
    (h : written.body.meaning? layout path text = some (.rule id)) : written.IsPlace layout id := by
  unfold Rule.meaning? at h
  split at h
  · obtain ⟨target, htarget, hid⟩ := Option.map_eq_some_iff.mp h
    obtain rfl := PatternRef.rule.inj hid
    obtain ⟨entry, hentry⟩ := Option.isSome_iff_exists.mp (Rule.resolve?_eq_some htarget).1
    exact ⟨target, entry, hentry, Rule.resolve?_isCompiled hcompiled htarget, rfl⟩
  · unfold Compile.include? at h
    split at h
    · cases h
    · cases h
    · cases h
    · split at h <;> cases h

/-- What a compiled rule refers to are rules of the document. -/
theorem isPlace_of_mentions {shape : Shape ρ} (hrule : written.body.at? path = some rule)
    (hcompiled : path.IsCompiled)
    (h : id ∈ (written.body.compiled layout path rule shape).mentions) :
    written.IsPlace layout id := by
  rcases Rule.mentions_compiled h with ⟨second, group, hcapture⟩ | hpattern
  · obtain ⟨rank, hrank, heq⟩ := List.mem_mapIdx.mp (lastOfEach_subset _ hcapture)
    obtain rfl := (Prod.mk.inj heq).2
    exact isPlace_part hrule hcompiled (by simp [Rule.part?, hrank]) (by simp)
  · rcases List.mem_append.mp hpattern with hown | hentries
    · obtain ⟨text, -, hmeaning⟩ := Option.bind_eq_some_iff.mp (Option.mem_toList.mp hown)
      exact isPlace_of_meaning? hcompiled hmeaning
    · obtain ⟨references, hreferences, hmem⟩ := List.mem_flatten.mp hentries
      obtain ⟨index, hindex, rfl⟩ := List.mem_mapIdx.mp hreferences
      split at hmem
      · exact isPlace_of_meaning? hcompiled (Option.mem_toList.mp hmem)
      · next hnone =>
        obtain rfl := PatternRef.rule.inj (List.mem_singleton.mp hmem)
        exact isPlace_part hrule hcompiled (by simp [Rule.part?, hindex, hnone]) (by simp)

variable {engine : Engine ρ} {grammar : LineScopes.Grammar ρ}

theorem Lays.lt_size (h : written.Lays engine layout grammar) (hid : written.IsPlace layout id) :
    id < grammar.rules.size := by
  obtain ⟨path, rule, hrule, hcompiled, rfl⟩ := hid
  obtain ⟨shape, -, hplace⟩ := h.rule path rule hrule hcompiled
  exact (Array.getElem?_eq_some_iff.mp hplace).1

theorem Lays.isPlace (h : written.Lays engine layout grammar) (hid : grammar.Stores id) :
    written.IsPlace layout id := by
  cases hid with
  | root =>
    rw [h.root]
    exact ⟨[], _, rfl, nofun, rfl⟩
  | repository hmem =>
    rw [h.repository] at hmem
    obtain ⟨⟨name, entry⟩, hentry, heq⟩ := List.mem_map.mp hmem
    obtain rfl := (Prod.mk.inj heq).2
    have hlookup : (written.body.repository.lookup name).isSome := by
      rw [Option.isSome_iff_ne_none]
      intro hnone
      simpa using List.lookup_eq_none_iff.mp hnone _ hentry
    have htop : written.body.at? [] = some written.body := rfl
    exact isPlace_part htop nofun hlookup nofun
  | mention hrule hmentions =>
    obtain ⟨i, hi, rfl⟩ := Array.mem_iff_getElem.mp hrule
    obtain ⟨path, rule, hat, hcompiled, rfl⟩ := h.covers i hi
    obtain ⟨shape, -, hplace⟩ := h.rule path rule hat hcompiled
    rw [Array.getElem?_eq_getElem hi, Option.some.injEq] at hplace
    rw [hplace] at hmentions
    exact isPlace_of_mentions hat hcompiled hmentions

theorem Lays.isClosed (h : written.Lays engine layout grammar) : grammar.IsClosed :=
  fun _ hid => h.lt_size (h.isPlace hid)

end Grammar

end Written

/-- The captures of a rule stand in the order of their groups, one for each of these. -/
def Rule.OrdersCaptures : Rule ρ → Prop
  | .matching _ _ captures => captures.Pairwise fun lower upper => lower.1 < upper.1
  | .beginEnd _ _ _ _ captures others .. | .beginWhile _ _ _ _ captures others _ =>
    captures.Pairwise (fun lower upper => lower.1 < upper.1) ∧
      others.Pairwise fun lower upper => lower.1 < upper.1
  | .group .. => True

theorem Rule.ordersCaptures_compiled (top : Written.Rule) (layout : Written.Path → RuleId)
    (path : Written.Path) (rule : Written.Rule) (shape : Shape ρ) :
    (top.compiled layout path rule shape).OrdersCaptures := by
  have hpairwise := rule.compiledCaptures_pairwise layout path
  cases shape with
  | matching => exact hpairwise false
  | beginEnd | beginWhile => exact ⟨hpairwise false, hpairwise true⟩
  | group => trivial

theorem Grammar.ordersCaptures_of_compile {engine : Engine ρ} {written : Written.Grammar}
    {grammar : Grammar ρ} (hnamed : written.body.Named)
    (h : Grammar.compile engine written = .ok grammar) (id : RuleId) :
    (grammar.rule id).OrdersCaptures := by
  obtain ⟨layout, hlays⟩ := Grammar.compile_lays hnamed h
  by_cases hid : id < grammar.rules.size
  · obtain ⟨path, rule, hat, hcompiled, rfl⟩ := hlays.covers id hid
    obtain ⟨shape, -, hplace⟩ := hlays.rule path rule hat hcompiled
    rw [Grammar.rule, hplace]
    exact Rule.ordersCaptures_compiled ..
  · rw [Grammar.rule, Array.getElem?_eq_none (Nat.le_of_not_lt hid)]
    trivial

theorem Grammar.isClosed_of_compile {engine : Engine ρ} {written : Written.Grammar}
    {grammar : Grammar ρ} (hnamed : written.body.Named)
    (h : Grammar.compile engine written = .ok grammar) : grammar.IsClosed :=
  let ⟨_, hlays⟩ := Grammar.compile_lays hnamed h
  hlays.isClosed

end LineScopes
