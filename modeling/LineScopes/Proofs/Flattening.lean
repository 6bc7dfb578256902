import LineScopes.Proofs.Lookups
import LineScopes.Proofs.OrderIndependence
import LineScopes.Proofs.Progress
import LineScopes.Proofs.StackEquality

/-!
# Groups that are followed more than once

Patterns could be followed afresh wherever they stand, and not at all only
inside of a group that is being followed: that comes to an end, though rules
come up again and again. What a library looks up is the same with each rule
where it comes up first. It does not go back into a group that it has met, since
the group is either being followed, or all that it leads to has been met.
-/

namespace LineScopes

namespace Library

-- ---------------------------------------------------------------------------
-- What patterns refer to
-- ---------------------------------------------------------------------------

/-- The grammar that a scope name means; the base goes before what is registered. -/
inductive Means (library : Library ρ) (scope : String) : Grammar ρ → Prop
  | base (own : library.base.scopeName = scope) : Means library scope library.base
  | registered {grammar : Grammar ρ} (foreign : library.base.scopeName ≠ scope)
    (found : library.registry.get? scope = some grammar) : Means library scope grammar

inductive Refers (library : Library ρ) (grammar : Grammar ρ) : PatternRef → RuleRef ρ → Prop
  | rule (id : RuleId) : Refers library grammar (.rule id) ⟨grammar, id⟩
  | self : Refers library grammar .self (.root grammar)
  | base : Refers library grammar .base (.root library.base)
  | top {scope : String} {target : Grammar ρ} (means : library.Means scope target) :
    Refers library grammar (.external scope none) (.root target)
  | repository {scope name : String} {target : Grammar ρ} {id : RuleId}
    (means : library.Means scope target) (entry : target.repositoryRule name = some id) :
    Refers library grammar (.external scope (some name)) ⟨target, id⟩

variable {library : Library ρ} {grammar : Grammar ρ} {pattern : PatternRef} {ref : RuleRef ρ}

theorem grammar?_eq_some_iff {scope : String} :
    library.grammar? scope = some grammar ↔ library.Means scope grammar := by
  unfold grammar?
  constructor
  · intro h
    split at h
    · next hown =>
      obtain rfl := Option.some.inj h
      exact .base hown
    · next hforeign => exact .registered hforeign h
  · rintro (hown | ⟨hforeign, hfound⟩)
    · rw [if_pos hown]
    · rw [if_neg hforeign, hfound]

theorem resolve_eq_some_iff :
    library.resolve grammar pattern = some ref ↔ library.Refers grammar pattern ref := by
  constructor
  · intro h
    cases pattern with
    | rule id =>
      obtain rfl := Option.some.inj h
      exact .rule id
    | self =>
      obtain rfl := Option.some.inj h
      exact .self
    | base =>
      obtain rfl := Option.some.inj h
      exact .base
    | external scope name =>
      cases name with
      | none =>
        obtain ⟨target, htarget, rfl⟩ := Option.map_eq_some_iff.mp h
        exact .top (grammar?_eq_some_iff.mp htarget)
      | some name =>
        obtain ⟨target, htarget, h⟩ := Option.bind_eq_some_iff.mp h
        obtain ⟨id, hid, h⟩ := Option.bind_eq_some_iff.mp h
        obtain rfl := Option.some.inj h
        exact .repository (grammar?_eq_some_iff.mp htarget) hid
  · intro h
    cases h with
    | rule | self | base => rfl
    | top means => rw [resolve, grammar?_eq_some_iff.mpr means, Option.map_some]
    | repository means entry =>
      rw [resolve, grammar?_eq_some_iff.mpr means, Option.bind_eq_bind, Option.bind_some, entry]
      rfl

theorem Refers.unique {other : RuleRef ρ} (h : library.Refers grammar pattern ref)
    (hother : library.Refers grammar pattern other) : ref = other :=
  Option.some.inj ((resolve_eq_some_iff.mpr h).symm.trans (resolve_eq_some_iff.mpr hother))

theorem Refers.names (h : library.Refers grammar pattern ref) (hgrammar : library.Names grammar) :
    library.Names ref.grammar := hgrammar.resolve (resolve_eq_some_iff.mpr h)

-- ---------------------------------------------------------------------------
-- Following afresh
-- ---------------------------------------------------------------------------

/-- The rules with a regular expression that patterns of a grammar lead to, each as often as it
comes up. Only the groups in `opened` are not followed: those around the patterns. -/
inductive Flattens (library : Library ρ) :
    List (RuleRef ρ) → Grammar ρ → List PatternRef → List (RuleRef ρ) → Prop
  | nil {opened : List (RuleRef ρ)} {grammar : Grammar ρ} : Flattens library opened grammar [] []
  | unknown {opened : List (RuleRef ρ)} {grammar : Grammar ρ} {pattern : PatternRef}
    {patterns : List PatternRef} {refs : List (RuleRef ρ)}
    (unknown : ∀ ref, ¬ library.Refers grammar pattern ref)
    (rest : Flattens library opened grammar patterns refs) :
    Flattens library opened grammar (pattern :: patterns) refs
  | rule {opened : List (RuleRef ρ)} {grammar : Grammar ρ} {pattern : PatternRef}
    {patterns : List PatternRef} {ref : RuleRef ρ} {refs : List (RuleRef ρ)}
    (refers : library.Refers grammar pattern ref) (starts : ref.rule.regex? ≠ none)
    (rest : Flattens library opened grammar patterns refs) :
    Flattens library opened grammar (pattern :: patterns) (ref :: refs)
  | opened {opened : List (RuleRef ρ)} {grammar : Grammar ρ} {pattern : PatternRef}
    {patterns : List PatternRef} {ref : RuleRef ρ} {refs : List (RuleRef ρ)}
    (refers : library.Refers grammar pattern ref) (group : ref.rule.regex? = none)
    (within : ref ∈ opened) (rest : Flattens library opened grammar patterns refs) :
    Flattens library opened grammar (pattern :: patterns) refs
  | group {opened : List (RuleRef ρ)} {grammar : Grammar ρ} {pattern : PatternRef}
    {patterns : List PatternRef} {ref : RuleRef ρ} {inner refs : List (RuleRef ρ)}
    (refers : library.Refers grammar pattern ref) (group : ref.rule.regex? = none)
    (outside : ref ∉ opened)
    (inside : Flattens library (ref :: opened) ref.grammar ref.rule.patterns inner)
    (rest : Flattens library opened grammar patterns refs) :
    Flattens library opened grammar (pattern :: patterns) (inner ++ refs)

namespace Flattens

variable {opened : List (RuleRef ρ)} {patterns : List PatternRef} {refs : List (RuleRef ρ)}

theorem nil_iff : library.Flattens opened grammar [] refs ↔ refs = [] :=
  ⟨fun h => by cases h; rfl, fun h => h ▸ .nil⟩

theorem unknown_iff (hunknown : ∀ ref, ¬ library.Refers grammar pattern ref) :
    library.Flattens opened grammar (pattern :: patterns) refs ↔
      library.Flattens opened grammar patterns refs := by
  refine ⟨fun h => ?_, .unknown hunknown⟩
  cases h with
  | unknown _ rest => exact rest
  | rule refers | opened refers | group refers => exact absurd refers (hunknown _)

theorem rule_iff (hrefers : library.Refers grammar pattern ref) (hstarts : ref.rule.regex? ≠ none) :
    library.Flattens opened grammar (pattern :: patterns) refs ↔
      ∃ rest, library.Flattens opened grammar patterns rest ∧ refs = ref :: rest := by
  constructor
  · intro h
    cases h with
    | unknown unknown => exact absurd hrefers (unknown _)
    | rule refers _ rest =>
      obtain rfl := refers.unique hrefers
      exact ⟨_, rest, rfl⟩
    | opened refers group | group refers group =>
      obtain rfl := refers.unique hrefers
      exact absurd group hstarts
  · rintro ⟨rest, hrest, rfl⟩
    exact .rule hrefers hstarts hrest

theorem opened_iff (hrefers : library.Refers grammar pattern ref)
    (hgroup : ref.rule.regex? = none) (hopened : ref ∈ opened) :
    library.Flattens opened grammar (pattern :: patterns) refs ↔
      library.Flattens opened grammar patterns refs := by
  refine ⟨fun h => ?_, .opened hrefers hgroup hopened⟩
  cases h with
  | unknown unknown => exact absurd hrefers (unknown _)
  | rule refers starts =>
    obtain rfl := refers.unique hrefers
    exact absurd hgroup starts
  | opened _ _ _ rest => exact rest
  | group refers _ outside =>
    obtain rfl := refers.unique hrefers
    exact absurd hopened outside

theorem group_iff (hrefers : library.Refers grammar pattern ref)
    (hgroup : ref.rule.regex? = none) (houtside : ref ∉ opened) :
    library.Flattens opened grammar (pattern :: patterns) refs ↔
      ∃ inner, library.Flattens (ref :: opened) ref.grammar ref.rule.patterns inner ∧
        ∃ rest, library.Flattens opened grammar patterns rest ∧ refs = inner ++ rest := by
  constructor
  · intro h
    cases h with
    | unknown unknown => exact absurd hrefers (unknown _)
    | rule refers starts =>
      obtain rfl := refers.unique hrefers
      exact absurd hgroup starts
    | opened refers _ within =>
      obtain rfl := refers.unique hrefers
      exact absurd within houtside
    | group refers _ _ inside rest =>
      obtain rfl := refers.unique hrefers
      exact ⟨_, inside, _, rest, rfl⟩
  · rintro ⟨inner, hinside, rest, hrest, rfl⟩
    exact .group hrefers hgroup houtside hinside hrest

theorem split (h : library.Flattens opened grammar (pattern :: patterns) refs) :
    ∃ first rest, library.Flattens opened grammar [pattern] first ∧
      library.Flattens opened grammar patterns rest ∧ refs = first ++ rest := by
  cases h with
  | unknown unknown rest => exact ⟨[], refs, .unknown unknown .nil, rest, rfl⟩
  | @rule _ _ _ _ ref refs refers starts rest =>
    exact ⟨[ref], refs, .rule refers starts .nil, rest, rfl⟩
  | opened refers group within rest => exact ⟨[], refs, .opened refers group within .nil, rest, rfl⟩
  | @group _ _ _ _ ref inner refs refers group outside inside rest =>
    refine ⟨inner ++ [], refs, .group refers group outside inside .nil, rest, ?_⟩
    rw [List.append_nil]

theorem starts (h : library.Flattens opened grammar patterns refs) :
    ∀ ref ∈ refs, ref.rule.regex? ≠ none := by
  induction h with
  | nil => exact nofun
  | unknown _ _ ih => exact ih
  | opened _ _ _ _ ih => exact ih
  | rule _ starts _ ih => exact List.forall_mem_cons.mpr ⟨starts, ih⟩
  | group _ _ _ _ _ ihInside ih => exact List.forall_mem_append.mpr ⟨ihInside, ih⟩

end Flattens

-- ---------------------------------------------------------------------------
-- Groups run out
-- ---------------------------------------------------------------------------

/-- How many rules of the library have not been marked. -/
def unmarked (library : Library ρ) (marked : List (String × RuleId)) : Nat :=
  library.keys.countP (· ∉ marked)

theorem unmarked_anti {marked marked' : List (String × RuleId)} (h : marked ⊆ marked') :
    library.unmarked marked' ≤ library.unmarked marked :=
  List.countP_mono_left fun key _ hkey => by
    simp only [decide_eq_true_eq] at hkey ⊢
    exact fun hmem => hkey (h hmem)

theorem unmarked_cons_lt {key : String × RuleId} {marked : List (String × RuleId)}
    (hkey : key ∈ library.keys) (hnew : key ∉ marked) :
    library.unmarked (key :: marked) < library.unmarked marked := by
  refine countP_lt_countP (fun other _ hother => ?_) hkey (by simpa using hnew) (by simp)
  simp only [List.mem_cons, not_or, decide_eq_true_eq] at hother ⊢
  exact hother.2

theorem patterns_eq_nil_or_key_mem (hgrammar : ref.grammar ∈ library.grammars) :
    ref.rule.patterns = [] ∨ ref.key ∈ library.keys := by
  by_cases hid : ref.id < ref.grammar.rules.size
  · exact .inr (List.mem_flatMap.mpr
      ⟨ref.grammar, hgrammar, List.mem_map.mpr ⟨ref.id, by simpa, rfl⟩⟩)
  · have hrule : ref.rule = .placeholder := by
      simp [RuleRef.rule, Grammar.rule, Array.getElem?_eq_none (Nat.le_of_not_lt hid)]
    exact .inl (by rw [hrule]; rfl)

theorem Names.mem_grammars (h : library.Names grammar) : grammar ∈ library.grammars :=
  grammar?_mem h

theorem Flattens.existsUnique_cons {opened : List (RuleRef ρ)} {patterns : List PatternRef}
    (hrest : ∃! rest, library.Flattens opened grammar patterns rest)
    (hinside : ∀ ref, library.Refers grammar pattern ref → ref ∉ opened →
      ∃! inner, library.Flattens (ref :: opened) ref.grammar ref.rule.patterns inner) :
    ∃! refs, library.Flattens opened grammar (pattern :: patterns) refs := by
  obtain ⟨rest, hrest, hunique⟩ := hrest
  by_cases hrefers : ∃ ref, library.Refers grammar pattern ref
  · obtain ⟨ref, hrefers⟩ := hrefers
    by_cases hgroup : ref.rule.regex? = none
    · by_cases hwithin : ref ∈ opened
      · simp only [opened_iff hrefers hgroup hwithin]
        exact ⟨rest, hrest, hunique⟩
      · obtain ⟨inner, hinner, huniqueInner⟩ := hinside ref hrefers hwithin
        simp only [group_iff hrefers hgroup hwithin]
        refine ⟨inner ++ rest, ⟨inner, hinner, rest, hrest, rfl⟩, ?_⟩
        rintro _ ⟨inner', hinner', rest', hrest', rfl⟩
        rw [huniqueInner inner' hinner', hunique rest' hrest']
    · simp only [rule_iff hrefers hgroup]
      refine ⟨ref :: rest, ⟨rest, hrest, rfl⟩, ?_⟩
      rintro _ ⟨rest', hrest', rfl⟩
      rw [hunique rest' hrest']
  · simp only [unknown_iff (not_exists.mp hrefers)]
    exact ⟨rest, hrest, hunique⟩

/-- Each group that is followed is one more of those that are not followed inside of it. -/
theorem flattens_existsUnique {opened : List (RuleRef ρ)}
    (hopened : ∀ ref ∈ opened, library.Names ref.grammar) (hgrammar : library.Names grammar)
    (patterns : List PatternRef) : ∃! refs, library.Flattens opened grammar patterns refs := by
  -- on the groups that can still be opened, and for each number of them on the patterns
  induction hcount : library.unmarked (opened.map (·.key)) using Nat.strong_induction_on
    generalizing opened grammar patterns with
  | _ count ihCount =>
    subst hcount
    induction patterns with
    | nil => simp only [Flattens.nil_iff, existsUnique_eq]
    | cons pattern patterns ih =>
      refine Flattens.existsUnique_cons ih fun ref hrefers houtside => ?_
      have hnames := hrefers.names hgrammar
      obtain hnil | hkey := patterns_eq_nil_or_key_mem hnames.mem_grammars
      · simp only [hnil, Flattens.nil_iff, existsUnique_eq]
      · have hnew : ref.key ∉ opened.map (·.key) := by
          intro hmem
          obtain ⟨other, hother, hsame⟩ := List.mem_map.mp hmem
          exact houtside ((hopened other hother).eq_of_key_eq hnames hsame ▸ hother)
        exact ihCount _ (unmarked_cons_lt hkey hnew)
          (List.forall_mem_cons.mpr ⟨hnames, hopened⟩) hnames _ rfl

-- ---------------------------------------------------------------------------
-- What has been met
-- ---------------------------------------------------------------------------

namespace Expansion

/-- All rules that patterns refer to have been met. -/
def MeetsAll (library : Library ρ) (expansion : Expansion ρ) (grammar : Grammar ρ)
    (patterns : List PatternRef) : Prop :=
  ∀ pattern ∈ patterns, ∀ ref, library.Refers grammar pattern ref → ref.key ∈ expansion.met

/-- Rules with a regular expression are found when they are met, and a group that has been met is
open, or all that it leads to has been met, too. -/
structure Consistent (library : Library ρ) (opened : List (RuleRef ρ))
    (expansion : Expansion ρ) : Prop where
  around : ∀ ref ∈ opened, ref.key ∈ expansion.met
  met : ∀ ref ∈ expansion.found, ref.key ∈ expansion.met
  found : ∀ ref, library.Names ref.grammar → ref.key ∈ expansion.met → ref.rule.regex? ≠ none →
    ref ∈ expansion.found
  followed : ∀ ref, library.Names ref.grammar → ref.key ∈ expansion.met → ref.rule.regex? = none →
    ref ∉ opened → expansion.MeetsAll library ref.grammar ref.rule.patterns

/-- The rule has been met. -/
def mark (expansion : Expansion ρ) (ref : RuleRef ρ) : Expansion ρ :=
  { expansion with met := ref.key :: expansion.met }

variable {opened : List (RuleRef ρ)} {expansion next : Expansion ρ}

theorem MeetsAll.mono {patterns : List PatternRef}
    (h : expansion.MeetsAll library grammar patterns) (hmet : expansion.met ⊆ next.met) :
    next.MeetsAll library grammar patterns :=
  fun pattern hpattern ref href => hmet (h pattern hpattern ref href)

namespace Consistent

theorem empty (library : Library ρ) : Consistent library [] {} where
  around := nofun
  met := nofun
  found _ _ h := absurd h List.not_mem_nil
  followed _ _ h := absurd h List.not_mem_nil

theorem reopen (h : expansion.Consistent library opened) (href : ref.key ∈ expansion.met) :
    expansion.Consistent library (ref :: opened) where
  around := List.forall_mem_cons.mpr ⟨href, h.around⟩
  met := h.met
  found := h.found
  followed other hnames hmet hgroup houtside :=
    h.followed other hnames hmet hgroup fun hmem => houtside (List.mem_cons_of_mem _ hmem)

/-- A group is closed when all that it leads to has been met. -/
theorem close (h : expansion.Consistent library (ref :: opened))
    (href : expansion.MeetsAll library ref.grammar ref.rule.patterns) :
    expansion.Consistent library opened where
  around := (List.forall_mem_cons.mp h.around).2
  met := h.met
  found := h.found
  followed other hnames hmet hgroup houtside := by
    by_cases hsame : other = ref
    · rw [hsame]
      exact href
    · exact h.followed other hnames hmet hgroup fun hmem =>
        (List.mem_cons.mp hmem).elim hsame houtside

theorem findRule (h : expansion.Consistent library opened) (hnames : library.Names ref.grammar)
    (hstarts : ref.rule.regex? ≠ none) : Consistent library opened
      { met := ref.key :: expansion.met, found := ref :: expansion.found } where
  around other hmem := List.mem_cons_of_mem _ (h.around other hmem)
  met := List.forall_mem_cons.mpr
    ⟨List.mem_cons_self, fun other hmem => List.mem_cons_of_mem _ (h.met other hmem)⟩
  found other hother hmet hstart := by
    obtain hsame | hmet := List.mem_cons.mp hmet
    · rw [hother.eq_of_key_eq hnames hsame]
      exact List.mem_cons_self
    · exact List.mem_cons_of_mem _ (h.found other hother hmet hstart)
  followed other hother hmet hgroup houtside := by
    obtain hsame | hmet := List.mem_cons.mp hmet
    · rw [hother.eq_of_key_eq hnames hsame] at hgroup
      exact absurd hgroup hstarts
    · exact (h.followed other hother hmet hgroup houtside).mono (List.subset_cons_self _ _)

theorem openGroup (h : expansion.Consistent library opened) (hnames : library.Names ref.grammar)
    (hgroup : ref.rule.regex? = none) :
    (expansion.mark ref).Consistent library (ref :: opened) where
  around := List.forall_mem_cons.mpr
    ⟨List.mem_cons_self, fun other hmem => List.mem_cons_of_mem _ (h.around other hmem)⟩
  met other hmem := List.mem_cons_of_mem _ (h.met other hmem)
  found other hother hmet hstart := by
    obtain hsame | hmet := List.mem_cons.mp hmet
    · rw [hother.eq_of_key_eq hnames hsame] at hstart
      exact absurd hgroup hstart
    · exact h.found other hother hmet hstart
  followed other hother hmet hgroup houtside := by
    obtain ⟨hne, houtside⟩ := not_or.mp (mt List.mem_cons.mpr houtside)
    obtain hsame | hmet := List.mem_cons.mp hmet
    · exact absurd (hother.eq_of_key_eq hnames hsame) hne
    · exact (h.followed other hother hmet hgroup houtside).mono (List.subset_cons_self _ _)

end Consistent

end Expansion

theorem expand_nil (library : Library ρ) (depth : Nat) (grammar : Grammar ρ)
    (expansion : Expansion ρ) : library.expand depth grammar [] expansion = expansion := by
  rw [expand]
  rfl

theorem Meets.key_mem {owner : RuleRef ρ} {expansion : Expansion ρ}
    (h : library.Meets owner ref) (howner : library.Names owner.grammar)
    (hconsistent : expansion.Consistent library [])
    (hmeets : expansion.MeetsAll library owner.grammar owner.rule.patterns) :
    library.Names ref.grammar ∧ ref.key ∈ expansion.met := by
  induction h with
  | pattern hpattern hresolve =>
    exact ⟨howner.resolve hresolve, hmeets _ hpattern _ (resolve_eq_some_iff.mp hresolve)⟩
  | group _ hgroup hpattern hresolve ih =>
    obtain ⟨hnames, hmet⟩ := ih
    have hfollowed := hconsistent.followed _ hnames hmet hgroup List.not_mem_nil
    exact ⟨hnames.resolve hresolve, hfollowed _ hpattern _ (resolve_eq_some_iff.mp hresolve)⟩

/-- Following patterns afresh brings up nothing new where all that they refer to has been met. -/
theorem Flattens.found {opened : List (RuleRef ρ)} {patterns : List PatternRef}
    {refs : List (RuleRef ρ)} {expansion : Expansion ρ}
    (h : library.Flattens opened grammar patterns refs) (hgrammar : library.Names grammar)
    (hconsistent : expansion.Consistent library opened)
    (hmeets : expansion.MeetsAll library grammar patterns) : refs ⊆ expansion.found := by
  induction h with
  | nil => exact List.nil_subset _
  | unknown _ _ ih => exact ih hgrammar hconsistent (List.forall_mem_cons.mp hmeets).2
  | opened _ _ _ _ ih => exact ih hgrammar hconsistent (List.forall_mem_cons.mp hmeets).2
  | rule refers starts _ ih =>
    obtain ⟨hfirst, hrest⟩ := List.forall_mem_cons.mp hmeets
    refine List.cons_subset.mpr ⟨?_, ih hgrammar hconsistent hrest⟩
    exact hconsistent.found _ (refers.names hgrammar) (hfirst _ refers) starts
  | group refers group outside _ _ ihInside ih =>
    obtain ⟨hfirst, hrest⟩ := List.forall_mem_cons.mp hmeets
    have hnames := refers.names hgrammar
    have hmet := hfirst _ refers
    -- inside of the group it counts as open, which asks for less
    refine List.append_subset.mpr ⟨?_, ih hgrammar hconsistent hrest⟩
    exact ihInside hnames (hconsistent.reopen hmet)
      (hconsistent.followed _ hnames hmet group outside)

-- ---------------------------------------------------------------------------
-- Each rule where it comes up first
-- ---------------------------------------------------------------------------

section

variable [DecidableEq α]

theorem foldl_insert_of_subset {items found : List α} (h : items ⊆ found) :
    items.foldl (·.insert ·) found = found := by
  induction items with
  | nil => rfl
  | cons item items ih =>
    obtain ⟨hitem, hitems⟩ := List.cons_subset.mp h
    rw [List.foldl_cons, List.insert_of_mem hitem, ih hitems]

/-- One by one, and the last one first, only the first of equal items are left. -/
theorem reverse_foldl_insert (items : List α) :
    (items.foldl (·.insert ·) []).reverse = items.eraseDups := by
  have hloop (found : List α) :
      (items.foldl (·.insert ·) found).reverse = List.eraseDupsBy.loop (· == ·) items found := by
    induction items generalizing found with
    | nil => rfl
    | cons item items ih =>
      rw [List.foldl_cons, ih, List.eraseDupsBy.loop, List.any_beq]
      by_cases hitem : item ∈ found
      · rw [List.insert_of_mem hitem, List.contains_iff_mem.mpr hitem]
      · rw [List.insert_of_not_mem hitem, List.contains_eq_mem, decide_eq_false hitem]
  exact hloop []

theorem nodup_foldl_insert (items : List α) : (items.foldl (·.insert ·) []).Nodup :=
  List.foldlRecOn items _ List.nodup_nil fun _ h _ _ => h.insert

end

section

variable [DecidableEq ρ]

/-- Following patterns leaves nothing out that they lead to, and finds what comes up anew. -/
structure Expansion.Extends (library : Library ρ) (opened : List (RuleRef ρ))
    (grammar : Grammar ρ) (patterns : List PatternRef) (refs : List (RuleRef ρ))
    (expansion next : Expansion ρ) : Prop where
  consistent : next.Consistent library opened
  met : expansion.met ⊆ next.met
  meetsAll : next.MeetsAll library grammar patterns
  found : next.found = refs.foldl (·.insert ·) expansion.found

namespace Expansion.Extends

variable {opened : List (RuleRef ρ)} {patterns : List PatternRef} {refs rest : List (RuleRef ρ)}
  {expansion next last : Expansion ρ}

theorem nil (h : expansion.Consistent library opened) :
    Extends library opened grammar [] [] expansion expansion where
  consistent := h
  met := List.Subset.refl _
  meetsAll := nofun
  found := rfl

theorem cons (h : Extends library opened grammar [pattern] refs expansion next)
    (hrest : Extends library opened grammar patterns rest next last) :
    Extends library opened grammar (pattern :: patterns) (refs ++ rest) expansion last where
  consistent := hrest.consistent
  met := List.Subset.trans h.met hrest.met
  meetsAll := List.forall_mem_cons.mpr
    ⟨(h.meetsAll.mono hrest.met) pattern List.mem_cons_self, hrest.meetsAll⟩
  found := by rw [hrest.found, h.found, List.foldl_append]

theorem keep (hgrammar : library.Names grammar)
    (h : library.Flattens opened grammar patterns refs)
    (hconsistent : expansion.Consistent library opened)
    (hmeets : expansion.MeetsAll library grammar patterns) :
    Extends library opened grammar patterns refs expansion expansion where
  consistent := hconsistent
  met := List.Subset.refl _
  meetsAll := hmeets
  found := (foldl_insert_of_subset (h.found hgrammar hconsistent hmeets)).symm

theorem findRule (h : expansion.Consistent library opened) (hgrammar : library.Names grammar)
    (hrefers : library.Refers grammar pattern ref) (hstarts : ref.rule.regex? ≠ none)
    (hnew : ref.key ∉ expansion.met) :
    Extends library opened grammar [pattern] [ref] expansion
      { met := ref.key :: expansion.met, found := ref :: expansion.found } where
  consistent := h.findRule (hrefers.names hgrammar) hstarts
  met := List.subset_cons_self _ _
  meetsAll := List.forall_mem_singleton.mpr fun _ hother =>
    hother.unique hrefers ▸ List.mem_cons_self
  found := (List.insert_of_not_mem (mt (h.met ref) hnew)).symm

theorem closeGroup (hrefers : library.Refers grammar pattern ref)
    (h : Extends library (ref :: opened) ref.grammar ref.rule.patterns refs (expansion.mark ref)
      next) : Extends library opened grammar [pattern] refs expansion next where
  consistent := h.consistent.close h.meetsAll
  met := List.Subset.trans (List.subset_cons_self _ _) h.met
  meetsAll := List.forall_mem_singleton.mpr fun _ hother =>
    hother.unique hrefers ▸ h.met List.mem_cons_self
  found := h.found

end Expansion.Extends

/-- A group that is met for the first time is followed as its patterns are; nothing is done for one
that has no patterns. -/
structure FollowsNew (library : Library ρ) (depth : Nat)
    (follow : RuleRef ρ → Expansion ρ → Expansion ρ) : Prop where
  idle : ∀ ref expansion, ref.rule.patterns = [] → follow ref expansion = expansion
  stored : ∀ {opened ref refs} {expansion : Expansion ρ}, library.Names ref.grammar →
    ref.key ∈ library.keys → ref.key ∉ expansion.met → library.unmarked expansion.met ≤ depth →
    library.Flattens (ref :: opened) ref.grammar ref.rule.patterns refs →
    (expansion.mark ref).Consistent library (ref :: opened) →
    Expansion.Extends library (ref :: opened) ref.grammar ref.rule.patterns refs
      (expansion.mark ref) (follow ref (expansion.mark ref))

section

variable {depth : Nat} {follow : RuleRef ρ → Expansion ρ → Expansion ρ}
  {opened : List (RuleRef ρ)} {patterns : List PatternRef} {refs : List (RuleRef ρ)}
  {expansion : Expansion ρ}

theorem FollowsNew.follow_extends (hfollow : library.FollowsNew depth follow)
    (hnames : library.Names ref.grammar) (hnew : ref.key ∉ expansion.met)
    (hdepth : library.unmarked expansion.met ≤ depth)
    (h : library.Flattens (ref :: opened) ref.grammar ref.rule.patterns refs)
    (hconsistent : (expansion.mark ref).Consistent library (ref :: opened)) :
    Expansion.Extends library (ref :: opened) ref.grammar ref.rule.patterns refs
      (expansion.mark ref) (follow ref (expansion.mark ref)) := by
  obtain hnil | hkey := patterns_eq_nil_or_key_mem hnames.mem_grammars
  · rw [hfollow.idle ref _ hnil]
    rw [hnil] at h ⊢
    obtain rfl := Flattens.nil_iff.mp h
    exact .nil hconsistent
  · exact hfollow.stored hnames hkey hnew hdepth h hconsistent

theorem visit_extends (hfollow : library.FollowsNew depth follow)
    (hgrammar : library.Names grammar) (hdepth : library.unmarked expansion.met ≤ depth)
    (h : library.Flattens opened grammar [pattern] refs)
    (hconsistent : expansion.Consistent library opened) :
    Expansion.Extends library opened grammar [pattern] refs expansion
      (library.visit follow grammar expansion pattern) := by
  unfold visit
  cases hresolve : library.resolve grammar pattern with
  | none =>
    refine .keep hgrammar h hconsistent (List.forall_mem_singleton.mpr fun ref hrefers => ?_)
    rw [resolve_eq_some_iff.mpr hrefers] at hresolve
    contradiction
  | some ref =>
    have hrefers := resolve_eq_some_iff.mp hresolve
    have hnames := hrefers.names hgrammar
    by_cases hmet : ref.key ∈ expansion.met
    · simp only [List.contains_iff_mem.mpr hmet, if_true]
      exact .keep hgrammar h hconsistent
        (List.forall_mem_singleton.mpr fun _ hother => hother.unique hrefers ▸ hmet)
    · simp only [List.contains_eq_mem, decide_eq_false hmet, Bool.false_eq_true, if_false]
      by_cases hgroup : ref.rule.regex? = none
      · -- an open group would have been met
        have houtside : ref ∉ opened := mt (hconsistent.around ref) hmet
        obtain ⟨inner, hinside, rest, hrest, rfl⟩ :=
          (Flattens.group_iff hrefers hgroup houtside).mp h
        obtain rfl := Flattens.nil_iff.mp hrest
        rw [hgroup, List.append_nil]
        exact .closeGroup hrefers
          (hfollow.follow_extends hnames hmet hdepth hinside (hconsistent.openGroup hnames hgroup))
      · obtain ⟨rest, hrest, rfl⟩ := (Flattens.rule_iff hrefers hgroup).mp h
        obtain rfl := Flattens.nil_iff.mp hrest
        rw [if_pos (Option.isSome_iff_ne_none.mpr hgroup)]
        exact .findRule hconsistent hgrammar hrefers hgroup hmet

theorem foldl_visit_extends (hfollow : library.FollowsNew depth follow)
    (hgrammar : library.Names grammar) (hdepth : library.unmarked expansion.met ≤ depth)
    (h : library.Flattens opened grammar patterns refs)
    (hconsistent : expansion.Consistent library opened) :
    Expansion.Extends library opened grammar patterns refs expansion
      (patterns.foldl (library.visit follow grammar) expansion) := by
  induction patterns generalizing refs expansion with
  | nil =>
    obtain rfl := Flattens.nil_iff.mp h
    exact .nil hconsistent
  | cons pattern patterns ih =>
    obtain ⟨first, rest, hfirst, hrest, rfl⟩ := h.split
    have hstep := visit_extends hfollow hgrammar hdepth hfirst hconsistent
    exact hstep.cons (ih ((unmarked_anti hstep.met).trans hdepth) hrest hstep.consistent)

end

theorem expand_extends (depth : Nat) {opened : List (RuleRef ρ)} (hgrammar : library.Names grammar)
    {patterns : List PatternRef} {refs : List (RuleRef ρ)} {expansion : Expansion ρ}
    (hdepth : library.unmarked expansion.met ≤ depth)
    (h : library.Flattens opened grammar patterns refs)
    (hconsistent : expansion.Consistent library opened) :
    Expansion.Extends library opened grammar patterns refs expansion
      (library.expand depth grammar patterns expansion) := by
  induction depth generalizing opened grammar patterns refs expansion with
  | zero =>
    rw [expand_zero]
    refine foldl_visit_extends ⟨fun _ _ _ => rfl, ?_⟩ hgrammar hdepth h hconsistent
    intro _ _ _ _ _ hkey hnew hdepth
    exact absurd (unmarked_cons_lt hkey hnew) (by omega)
  | succ depth ih =>
    rw [expand_succ]
    refine foldl_visit_extends ⟨fun ref expansion hnil => ?_, ?_⟩ hgrammar hdepth h hconsistent
    · simp only [hnil, expand_nil]
    · intro _ _ _ _ hnames hkey hnew hdepth
      exact ih hnames (Nat.le_of_lt_succ ((unmarked_cons_lt hkey hnew).trans_le hdepth))

theorem candidates_extends {owner : RuleRef ρ} {refs : List (RuleRef ρ)}
    (howner : library.Names owner.grammar)
    (h : library.Flattens [] owner.grammar owner.rule.patterns refs) :
    Expansion.Extends library [] owner.grammar owner.rule.patterns refs {}
      (library.expand (library.ruleCount + 1) owner.grammar owner.rule.patterns {}) := by
  refine expand_extends _ howner ?_ h (.empty library)
  rw [← length_keys]
  exact List.countP_le_length.trans (Nat.le_succ _)

/-- The rules that are looked up for a rule are those that its patterns lead to when each group is
followed afresh wherever it is not open, each rule where it comes up first. The rule belongs to the
base or to a registered grammar that can be looked up, as all rules do that are ever open: one with
the scope name of the base never is. -/
theorem candidates_eq_eraseDups {owner : RuleRef ρ} (howner : library.Names owner.grammar) :
    (∃! refs, library.Flattens [] owner.grammar owner.rule.patterns refs) ∧
    (∀ refs, library.Flattens [] owner.grammar owner.rule.patterns refs →
      library.candidates owner = refs.eraseDups) ∧
    (library.candidates owner).Nodup ∧
    ∀ ref, ref ∈ library.candidates owner ↔ library.Meets owner ref ∧ ref.rule.regex? ≠ none := by
  obtain ⟨refs, hrefs, hunique⟩ := flattens_existsUnique (List.forall_mem_nil _) howner
    owner.rule.patterns
  have hextends := candidates_extends howner hrefs
  have hcandidates : library.candidates owner = (refs.foldl (·.insert ·) []).reverse := by
    rw [candidates, hextends.found]
  refine ⟨⟨refs, hrefs, hunique⟩, fun other hother => ?_, ?_, fun ref => ⟨fun hmem => ?_, ?_⟩⟩
  · rw [hunique other hother, hcandidates, reverse_foldl_insert]
  · rw [hcandidates]
    exact List.nodup_reverse.mpr (nodup_foldl_insert refs)
  · refine ⟨candidates_meets hmem, hrefs.starts ref ?_⟩
    rwa [hcandidates, reverse_foldl_insert, List.mem_eraseDups] at hmem
  · rintro ⟨hmeets, hstarts⟩
    obtain ⟨hnames, hmet⟩ := hmeets.key_mem howner hextends.consistent hextends.meetsAll
    exact List.mem_reverse.mpr (hextends.consistent.found ref hnames hmet hstarts)

end

/-- A grammar with a rule of its own behind an include of another one. -/
def circling : Grammar String where
  scopeName := "source.x"
  name := none
  rules := #[.group none [.external "source.y" none, .rule 1], .matching "a.x" "a" []]
  root := 0
  repository := []

/-- A grammar with a rule of its own before an include of the first one. -/
def circled : Grammar String where
  scopeName := "source.y"
  name := none
  rules := #[.group none [.rule 1, .external "source.x" none], .matching "b.y" "b" []]
  root := 0
  repository := []

def circle : Library String := ⟨circling, .ofList [circled]⟩

theorem circle_flattens : circle.Flattens [] circling (RuleRef.root circling).rule.patterns
    [⟨circled, 1⟩, ⟨circling, 1⟩, ⟨circling, 1⟩] := by
  have hcircled : circle.Refers circling (.external "source.y" none) (.root circled) :=
    .top (.registered (by decide) (by decide +kernel))
  have hcircling : circle.Refers circled (.external "source.x" none) (.root circling) :=
    .top (.base rfl)
  have hends : circle.Flattens [] circling [.rule 1] [⟨circling, 1⟩] := .rule (.rule 1) nofun .nil
  have hreturns : circle.Flattens [.root circling, .root circled] circling
      (RuleRef.root circling).rule.patterns [⟨circling, 1⟩] :=
    .opened hcircled rfl (by simp) (.rule (.rule 1) nofun .nil)
  have hinside : circle.Flattens [.root circled] circled (RuleRef.root circled).rule.patterns
      [⟨circled, 1⟩, ⟨circling, 1⟩] :=
    .rule (.rule 1) nofun (.group hcircling rfl (by decide +kernel) hreturns .nil)
  exact .group hcircled rfl List.not_mem_nil hinside hends

theorem candidates_eq_eraseDups_circle : circle.Names circling ∧
    circle.Flattens [] circling (RuleRef.root circling).rule.patterns
      [⟨circled, 1⟩, ⟨circling, 1⟩, ⟨circling, 1⟩] ∧
    circle.candidates (.root circling) = [⟨circled, 1⟩, ⟨circling, 1⟩] := by
  have hnames : circle.Names (RuleRef.root circling).grammar := circle.names_base
  obtain ⟨-, hcandidates, -⟩ := candidates_eq_eraseDups hnames
  refine ⟨hnames, circle_flattens, ?_⟩
  rw [hcandidates _ circle_flattens]
  decide +kernel

end Library

end LineScopes
