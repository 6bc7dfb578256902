import Mathlib.Data.List.Perm.Basic
import LineScopes.Proofs.Renaming
import LineScopes.Proofs.Reordering

/-!
# Places of alike drafts

Where alike drafts come into arenas, each rule within the one has its
counterpart within the other. The places pair up, and the renaming that takes
each place to its partner takes rule to rule.
-/

namespace LineScopes

-- ---------------------------------------------------------------------------
-- Keys that are different
-- ---------------------------------------------------------------------------

theorem lookup_eq_some_of_nodup [BEq α] [LawfulBEq α] {entries : List (α × β)}
    (hnodup : (entries.map (·.1)).Nodup) {key : α} {value : β} :
    entries.lookup key = some value ↔ (key, value) ∈ entries := by
  induction entries with
  | nil => simp
  | cons entry rest ih =>
    obtain ⟨first, found⟩ := entry
    obtain ⟨hfirst, hrest⟩ := List.nodup_cons.mp hnodup
    rw [List.lookup_cons]
    cases heq : key == first with
    | false =>
      have hne : key ≠ first := by simpa using heq
      simp [ih hrest, hne]
    | true =>
      obtain rfl : key = first := by simpa using heq
      have hrest : (key, value) ∉ rest := fun hmem =>
        hfirst (List.mem_map.mpr ⟨_, hmem, rfl⟩)
      simp [hrest, eq_comm]

theorem lookup_eq_of_perm [BEq α] [LawfulBEq α] {entries others : List (α × β)}
    (h : entries.Perm others) (hnodup : (entries.map (·.1)).Nodup) (key : α) :
    entries.lookup key = others.lookup key := by
  apply Option.ext
  intro value
  rw [lookup_eq_some_of_nodup hnodup,
    lookup_eq_some_of_nodup ((h.map _).nodup_iff.mp hnodup), h.mem_iff]

namespace Draft

open Compile (Scopes)

-- ---------------------------------------------------------------------------
-- Drafts without their places
-- ---------------------------------------------------------------------------

mutual

def erase : Draft ι ρ → Draft Unit ρ
  | ⟨_, role, shape, listing, repository, opening, closing, patterns⟩ =>
    ⟨(), role, shape, listing, eraseAll repository, eraseAll opening, eraseAll closing,
      eraseAll patterns⟩

def eraseAll : List (Draft ι ρ) → List (Draft Unit ρ)
  | [] => []
  | draft :: rest => erase draft :: eraseAll rest

end

theorem eraseAll_eq_map (drafts : List (Draft ι ρ)) : eraseAll drafts = drafts.map erase := by
  induction drafts with
  | nil => rfl
  | cons draft rest ih => rw [eraseAll, ih, List.map_cons]

theorem erase_role (draft : Draft ι ρ) : draft.erase.role = draft.role := by
  cases draft
  rfl

mutual

theorem erase_number (place : Option RuleId) (next : Nat) (draft : Draft Unit ρ) :
    (number place next draft).1.erase = draft := by
  obtain ⟨label, role, shape, listing, repository, opening, closing, patterns⟩ := draft
  have hrepository := fun place next => eraseAll_numberAll place next repository
  have hopening := fun place next => eraseAll_numberAll place next opening
  have hclosing := fun place next => eraseAll_numberAll place next closing
  have hpatterns := fun place next => eraseAll_numberAll place next patterns
  cases place <;> simp [number, erase, hrepository, hopening, hclosing, hpatterns]

theorem eraseAll_numberAll (place : Option RuleId) (next : Nat) (drafts : List (Draft Unit ρ)) :
    eraseAll (numberAll place next drafts).1 = drafts := by
  match drafts with
  | [] => rfl
  | draft :: rest =>
    rw [numberAll, eraseAll, erase_number place next draft, eraseAll_numberAll _ _ rest]

end

-- ---------------------------------------------------------------------------
-- The rules of a draft
-- ---------------------------------------------------------------------------

/-- A draft's rule, and the rules within it, with their places. -/
def rules (draft : Draft RuleId ρ) (outer : Scopes) : List (RuleId × Rule ρ) :=
  own outer draft :: block outer draft

def rulesAll (drafts : List (Draft RuleId ρ)) (scopes : Scopes) : List (RuleId × Rule ρ) :=
  drafts.flatMap (·.rules scopes)

theorem blocks_perm (scopes : Scopes) (drafts : List (Draft RuleId ρ)) :
    (blocks false scopes drafts).Perm (rulesAll drafts scopes) := by
  induction drafts with
  | nil => exact .nil
  | cons draft rest ih =>
    simp only [blocks, rulesAll, List.flatMap_cons, Bool.false_eq_true, if_false] at ih ⊢
    exact .append (List.perm_append_singleton ..) ih

theorem placed_blocks_perm (scopes : Scopes) (drafts : List (Draft RuleId ρ)) :
    (drafts.map (own scopes) ++ blocks true scopes drafts).Perm (rulesAll drafts scopes) := by
  induction drafts with
  | nil => exact .nil
  | cons draft rest ih =>
    simp only [blocks, rulesAll, List.flatMap_cons, if_true, List.append_nil, rules, List.map_cons,
      List.cons_append] at ih ⊢
    refine .cons _ ?_
    rw [← List.append_assoc]
    refine (List.perm_append_comm.append_right _).trans ?_
    rw [List.append_assoc]
    exact ih.append_left _

/-- The rules within a draft, from the scopes that they are in. -/
def within (draft : Draft RuleId ρ) (scopes : Scopes) : List (RuleId × Rule ρ) :=
  rulesAll draft.repository scopes ++ (rulesAll draft.opening scopes ++
    (rulesAll draft.closing scopes ++ rulesAll draft.patterns scopes))

theorem block_perm (outer : Scopes) (draft : Draft RuleId ρ) :
    (draft.block outer).Perm (draft.within (draft.scopes outer)) := by
  cases draft
  simp only [block, List.append_assoc]
  rw [← List.append_assoc]
  exact (placed_blocks_perm ..).append
    ((blocks_perm ..).append ((blocks_perm ..).append (blocks_perm ..)))

-- ---------------------------------------------------------------------------
-- Renamed scopes
-- ---------------------------------------------------------------------------

/-- The second repositories have the names of the first ones, for renamed places. -/
def Renames (f : RuleId → RuleId) (outer outer' : Scopes) : Prop :=
  ∀ name, outer'.lookup name = (outer.lookup name).map f

/-- The second drafts have the roles of the first ones, and renamed places. -/
def Counterparts (f : RuleId → RuleId) : List (Draft RuleId ρ) → List (Draft RuleId ρ) → Prop :=
  List.Forall₂ fun draft other => other.role = draft.role ∧ other.label = f draft.label

theorem include?_renames {f : RuleId → RuleId} {outer outer' : Scopes} (h : Renames f outer outer')
    (reference : String) :
    Compile.include? outer' reference = (Compile.include? outer reference).map (·.rename f) := by
  unfold Compile.include?
  split
  · rfl
  · rfl
  · rw [h, Option.map_map, Option.map_map]
    rfl
  · split <;> rfl

variable {f : RuleId → RuleId} {drafts drafts' : List (Draft RuleId ρ)}

theorem Counterparts.captureIds (h : Counterparts f drafts drafts') :
    captureIds drafts' = (captureIds drafts).rename f := by
  induction h with
  | nil => rfl
  | cons hfirst _ ih =>
    obtain ⟨hrole, hlabel⟩ := hfirst
    simp only [Draft.captureIds, hrole, hlabel, ih]
    split
    · rw [Captures.lookup_rename, Option.isSome_map]
      split <;> rfl
    · rfl

theorem Counterparts.references {outer outer' : Scopes} (h : Counterparts f drafts drafts')
    (hscopes : Renames f outer outer') (listing : List (Option String)) :
    references outer' listing drafts' = (references outer listing drafts).map (·.rename f) := by
  induction listing generalizing drafts drafts' with
  | nil => rfl
  | cons entry listing ih =>
    cases entry with
    | some text =>
      simp only [Draft.references, ih h, include?_renames hscopes, List.map_append]
      cases Compile.include? outer text <;> rfl
    | none =>
      cases h with
      | nil => rfl
      | cons hfirst hrest =>
        simp only [Draft.references, List.map_cons, ih hrest, hfirst.2]
        rfl

theorem Counterparts.places (h : Counterparts f drafts drafts') :
    places drafts' = (places drafts).map fun entry => (entry.1, f entry.2) := by
  induction h with
  | nil => rfl
  | @cons draft draft' _ _ hfirst _ ih =>
    obtain ⟨hrole, hlabel⟩ := hfirst
    simp only [Draft.places, List.filterMap_cons, hrole, hlabel] at ih ⊢
    cases draft.role with
    | entry name => exact congrArg _ ih
    | capture group => exact ih
    | pattern => exact ih

theorem nodup_places (h : (drafts.map (·.role)).Nodup) : ((places drafts).map (·.1)).Nodup := by
  have hnames : (places drafts).map (·.1) = (drafts.map (·.role)).filterMap Role.name? := by
    rw [places, List.map_filterMap, List.filterMap_map]
    congr
    funext draft
    simp only [Function.comp_apply]
    cases draft.role <;> rfl
  rw [hnames]
  refine h.filterMap fun a b name ha hb => ?_
  cases a <;> cases b <;> simp_all [Role.name?]

theorem lookup_scopes (draft : Draft RuleId ρ) (outer : Scopes) (name : String) :
    (draft.scopes outer).lookup name =
      ((places draft.repository).lookup name).orElse fun _ => outer.lookup name := by
  unfold Draft.scopes
  split
  · next hempty =>
    rw [List.isEmpty_iff.mp hempty]
    rfl
  · rfl

/-- The order of a repository does not matter for what its names mean. -/
theorem scopes_renames {draft draft' : Draft RuleId ρ} {placed : List (Draft RuleId ρ)}
    {outer outer' : Scopes} (hnodup : (draft.repository.map (·.role)).Nodup)
    (hperm : draft'.repository.Perm placed) (h : Counterparts f draft.repository placed)
    (houter : Renames f outer outer') : Renames f (draft.scopes outer) (draft'.scopes outer') := by
  intro name
  have hkeys : ((places placed).map (·.1)).Nodup := by
    rw [h.places, List.map_map]
    exact nodup_places hnodup
  have hplaces : (places draft'.repository).lookup name =
      ((places draft.repository).lookup name).map f := by
    have hplaced : (places placed).Perm (places draft'.repository) := hperm.symm.filterMap _
    rw [← lookup_eq_of_perm hplaced hkeys, ← lookup_map_snd, ← h.places]
  rw [lookup_scopes, lookup_scopes, hplaces, houter]
  cases (places draft.repository).lookup name <;> rfl

theorem rule_renames {draft draft' : Draft RuleId ρ} {outer outer' : Scopes}
    (hshape : draft'.shape = draft.shape) (hlisting : draft'.listing = draft.listing)
    (hopening : Counterparts f draft.opening draft'.opening)
    (hclosing : Counterparts f draft.closing draft'.closing)
    (hpatterns : Counterparts f draft.patterns draft'.patterns)
    (hscopes : Renames f (draft.scopes outer) (draft'.scopes outer')) :
    draft'.rule outer' = (draft.rule outer).rename f := by
  simp only [Draft.rule, hshape, hlisting, hopening.captureIds, hclosing.captureIds,
    hpatterns.references hscopes]
  cases draft.shape <;> rfl

-- ---------------------------------------------------------------------------
-- Pairs of places
-- ---------------------------------------------------------------------------

/-- The places of rules pair up with those of other rules. A renaming that agrees with the pairs
takes the rules to the others. -/
structure Pairing (pairs : List (RuleId × RuleId))
    (rules rules' : Scopes → List (RuleId × Rule ρ)) :
    Prop where
  sources (outer : Scopes) : ((rules outer).map (·.1)).Perm (pairs.map (·.1))
  targets (outer : Scopes) : ((rules' outer).map (·.1)).Perm (pairs.map (·.2))
  renames {f : RuleId → RuleId} {outer outer' : Scopes} :
    (∀ pair ∈ pairs, f pair.1 = pair.2) → Renames f outer outer' →
      ∀ rule ∈ rules outer, (f rule.1, rule.2.rename f) ∈ rules' outer'

namespace Pairing

variable {pairs pairs' : List (RuleId × RuleId)}
  {rules rules' others others' : Scopes → List (RuleId × Rule ρ)}

theorem nil : Pairing (ρ := ρ) [] (fun _ => []) fun _ => [] :=
  ⟨fun _ => .nil, fun _ => .nil, fun _ _ => nofun⟩

theorem append (h : Pairing pairs rules rules') (h' : Pairing pairs' others others') :
    Pairing (pairs ++ pairs') (fun outer => rules outer ++ others outer)
      fun outer => rules' outer ++ others' outer where
  sources outer := by
    simpa only [List.map_append] using (h.sources outer).append (h'.sources outer)
  targets outer := by
    simpa only [List.map_append] using (h.targets outer).append (h'.targets outer)
  renames hpairs houter rule hrule := by
    rcases List.mem_append.mp hrule with hrule | hrule
    · exact List.mem_append_left _
        (h.renames (fun pair hpair => hpairs pair (List.mem_append_left _ hpair)) houter rule hrule)
    · exact List.mem_append_right _
        (h'.renames (fun pair hpair => hpairs pair (List.mem_append_right _ hpair)) houter rule
          hrule)

theorem perm_right (h : Pairing pairs rules rules')
    (hperm : ∀ outer, (others outer).Perm (rules' outer)) :
    Pairing pairs rules others where
  sources := h.sources
  targets outer := ((hperm outer).map _).trans (h.targets outer)
  renames hpairs houter rule hrule := (hperm _).mem_iff.mpr (h.renames hpairs houter rule hrule)

end Pairing

theorem Alike.role {draft other : Draft Unit ρ} (h : draft.Alike other) :
    other.role = draft.role := by
  cases draft
  exact h.1

theorem exists_placed {drafts : List (Draft ι ρ)} {moved : List (Draft Unit ρ)}
    (h : (eraseAll drafts).Perm moved) :
    ∃ placed, drafts.Perm placed ∧ eraseAll placed = moved := by
  have herase : List.Forall₂ (fun draft other => draft = erase other) (eraseAll drafts) drafts := by
    rw [eraseAll_eq_map, List.forall₂_map_left_iff, List.forall₂_same]
    exact fun _ _ => rfl
  obtain ⟨placed, hplaced, hperm⟩ := List.perm_comp_forall₂ h.symm herase
  refine ⟨placed, hperm.symm, ?_⟩
  rw [eraseAll_eq_map, ← List.forall₂_eq_eq_eq, List.forall₂_map_left_iff]
  exact hplaced.flip.imp fun _ _ h => h.symm

mutual

/-- Alike drafts have the same rules in places that pair up. -/
theorem exists_pairing (draft draft' : Draft RuleId ρ) (h : draft.erase.Alike draft'.erase) :
    ∃ pairs, (draft.label, draft'.label) ∈ pairs ∧ Pairing pairs draft.rules draft'.rules ∧
      ∀ f outer outer', (∀ pair ∈ pairs, f pair.1 = pair.2) → Renames f outer outer' →
        Renames f (draft.scopes outer) (draft'.scopes outer') := by
  obtain ⟨label, role, shape, listing, repository, opening, closing, patterns⟩ := draft
  obtain ⟨label', role', shape', listing', repository', opening', closing', patterns'⟩ := draft'
  obtain ⟨-, hshape, hlisting, hroles, ⟨moved, hmoved, hrepository⟩, hopening, hclosing,
    hpatterns⟩ := h
  obtain ⟨placed, hperm, rfl⟩ := exists_placed hmoved
  obtain ⟨repositoryPairs, hrepository, hplaced⟩ := exists_pairing_all repository placed hrepository
  obtain ⟨openingPairs, hopening, hopened⟩ := exists_pairing_all opening opening' hopening
  obtain ⟨closingPairs, hclosing, hclosed⟩ := exists_pairing_all closing closing' hclosing
  obtain ⟨patternPairs, hpatterns, hmatched⟩ := exists_pairing_all patterns patterns' hpatterns
  have hwithin := (hrepository.perm_right fun _ => hperm.flatMap_right _).append
    (hopening.append (hclosing.append hpatterns))
  have hroles : (repository.map (·.role)).Nodup := by
    simpa [eraseAll_eq_map, Function.comp_def, erase_role] using hroles
  have hscopes : ∀ f outer outer', (∀ pair ∈ repositoryPairs, f pair.1 = pair.2) →
      Renames f outer outer' → Renames f
        (scopes ⟨label, role, shape, listing, repository, opening, closing, patterns⟩ outer)
        (scopes ⟨label', role', shape', listing', repository', opening', closing', patterns'⟩
          outer') :=
    fun f outer outer' hpairs houter => scopes_renames hroles hperm (hplaced f hpairs) houter
  refine ⟨(label, label') :: (repositoryPairs ++ (openingPairs ++ (closingPairs ++ patternPairs))),
    List.mem_cons_self, ⟨?_, ?_, ?_⟩, ?_⟩
  · exact fun outer => (((block_perm outer _).map _).trans (hwithin.sources _)).cons label
  · exact fun outer => (((block_perm outer _).map _).trans (hwithin.targets _)).cons label'
  · intro f outer outer' hpairs houter rule hrule
    obtain ⟨hlabel, hpairs⟩ := List.forall_mem_cons.mp hpairs
    have hrules := hpairs
    simp only [List.forall_mem_append] at hpairs
    obtain ⟨hrepositoryPairs, hopeningPairs, hclosingPairs, hpatternPairs⟩ := hpairs
    have hscopes := hscopes f outer outer' hrepositoryPairs houter
    rcases List.mem_cons.mp hrule with rfl | hrule
    · have hown := rule_renames hshape hlisting (hopened f hopeningPairs) (hclosed f hclosingPairs)
        (hmatched f hpatternPairs) hscopes
      exact List.mem_cons.mpr (.inl (Prod.ext hlabel hown.symm))
    · have hmem := hwithin.renames hrules hscopes rule ((block_perm outer _).mem_iff.mp hrule)
      exact List.mem_cons_of_mem _ ((block_perm outer' _).mem_iff.mpr hmem)
  · intro f outer outer' hpairs
    exact hscopes f outer outer' fun pair hpair =>
      hpairs pair (List.mem_cons_of_mem _ (List.mem_append_left _ hpair))
termination_by structural draft

theorem exists_pairing_all (drafts drafts' : List (Draft RuleId ρ))
    (h : AllAlike (eraseAll drafts) (eraseAll drafts')) :
    ∃ pairs, Pairing pairs (rulesAll drafts) (rulesAll drafts') ∧
      ∀ f, (∀ pair ∈ pairs, f pair.1 = pair.2) → Counterparts f drafts drafts' := by
  match drafts, drafts' with
  | [], [] => exact ⟨[], .nil, fun _ _ => .nil⟩
  | [], draft' :: rest' => cases h
  | draft :: rest, [] =>
    obtain ⟨_, _, hcons, -⟩ := h
    cases hcons
  | draft :: rest, draft' :: rest' =>
    obtain ⟨_, _, hcons, hfirst, hrest⟩ := h
    cases hcons
    obtain ⟨pairs, hmem, hpairs, -⟩ := exists_pairing draft draft' hfirst
    obtain ⟨pairs', hpairs', hplaces⟩ := exists_pairing_all rest rest' hrest
    refine ⟨pairs ++ pairs', hpairs.append hpairs', fun f hf => .cons ⟨?_, ?_⟩ (hplaces f ?_)⟩
    · rw [← erase_role, hfirst.role, erase_role]
    · exact (hf _ (List.mem_append_left _ hmem)).symm
    · exact fun pair hpair => hf pair (List.mem_append_right _ hpair)
termination_by structural drafts

end

-- ---------------------------------------------------------------------------
-- Arenas
-- ---------------------------------------------------------------------------

theorem exists_renaming {pairs : List (RuleId × RuleId)} {size : Nat}
    (hsources : (pairs.map (·.1)).Perm (List.range' 0 size))
    (htargets : (pairs.map (·.2)).Perm (List.range' 0 size)) :
    ∃ f : RuleId → RuleId, Function.Injective f ∧ (∀ pair ∈ pairs, f pair.1 = pair.2) ∧
      ∀ id, size ≤ id → f id = id := by
  have hnodup : (pairs.map (·.1)).Nodup := hsources.nodup_iff.mpr List.nodup_range'
  have hnodup' : (pairs.map (·.2)).Nodup := htargets.nodup_iff.mpr List.nodup_range'
  let f : RuleId → RuleId := fun id => (pairs.lookup id).getD id
  have hpairs : ∀ pair ∈ pairs, f pair.1 = pair.2 := fun pair hpair => by
    simp only [f, (lookup_eq_some_of_nodup hnodup).mpr hpair, Option.getD_some]
  have hinside : ∀ id, id < size → (id, f id) ∈ pairs := by
    intro id hid
    have hmem : id ∈ pairs.map (·.1) := hsources.mem_iff.mpr (by simpa using hid)
    obtain ⟨pair, hpair, rfl⟩ := List.mem_map.mp hmem
    rwa [hpairs pair hpair]
  have houtside : ∀ id, size ≤ id → f id = id := by
    intro id hid
    have hnone : pairs.lookup id = none := by
      rw [List.lookup_eq_none_iff]
      intro pair hpair
      have hmem := hsources.mem_iff.mp (List.mem_map_of_mem hpair)
      have hlt : pair.1 < size := by simpa using hmem
      simp only [bne_iff_ne, ne_eq]
      rintro rfl
      exact Nat.not_lt.mpr hid hlt
    simp only [f, hnone, Option.getD_none]
  have hlt : ∀ id, id < size → f id < size := by
    intro id hid
    have := htargets.mem_iff.mp (List.mem_map_of_mem (hinside id hid))
    simpa using this
  refine ⟨f, fun a b hab => ?_, hpairs, houtside⟩
  rcases Nat.lt_or_ge a size with ha | ha <;> rcases Nat.lt_or_ge b size with hb | hb
  · have := List.inj_on_of_nodup_map hnodup' (hinside a ha) (hinside b hb) hab
    exact congrArg Prod.fst this
  · have := hlt a ha
    rw [hab, houtside b hb] at this
    exact absurd this (Nat.not_lt.mpr hb)
  · have := hlt b hb
    rw [← hab, houtside a ha] at this
    exact absurd this (Nat.not_lt.mpr ha)
  · rwa [houtside a ha, houtside b hb] at hab

theorem mem_iff_of_places {rules : List (RuleId × α)} {size : Nat}
    (h : rules.map (·.1) = List.range' 0 size) {id : RuleId} {rule : α} :
    (id, rule) ∈ rules ↔ (rules.map (·.2))[id]? = some rule := by
  have hplace : ∀ (i : Nat) (pair : RuleId × α), rules[i]? = some pair → pair.1 = i := by
    intro i pair hpair
    have hi : (rules.map (·.1))[i]? = some pair.1 := by rw [List.getElem?_map, hpair]; rfl
    obtain ⟨hlt, hi⟩ := List.getElem?_eq_some_iff.mp (h ▸ hi)
    rw [List.getElem_range', Nat.one_mul, Nat.zero_add] at hi
    exact hi.symm
  rw [List.getElem?_map, Option.map_eq_some_iff]
  constructor
  · intro hmem
    obtain ⟨i, hi⟩ := List.mem_iff_getElem?.mp hmem
    obtain rfl : id = i := hplace i _ hi
    exact ⟨_, hi, rfl⟩
  · rintro ⟨pair, hpair, rfl⟩
    obtain rfl : pair.1 = id := hplace id pair hpair
    exact List.mem_of_getElem? hpair

theorem mem_rules_iff (scopeName : String) (name : Option String) (draft : Draft ι ρ) (id : RuleId)
    (rule : Rule ρ) :
    let numbered := (number none 0 draft).1
    (id, rule) ∈ numbered.rules numbered.outermost ↔
      (numbered.grammar scopeName name).rules[id]? = some rule := by
  intro numbered
  let arena := numbered.block numbered.outermost ++ [own numbered.outermost numbered]
  have hlabel : numbered.label = draft.size := by simp [numbered, number_label]
  have hplaces : arena.map (·.1) = List.range' 0 (draft.size + 1) := by
    simp only [arena, List.map_append, numbered, map_fst_block, List.range'_1_concat]
    simp [own, number_label]
  have harena : (numbered.grammar scopeName name).rules[id]? = (arena.map (·.2))[id]? := by
    rw [← Array.getElem?_toList]
    simp [grammar, arena, own]
  rw [harena, ← mem_iff_of_places hplaces]
  simp [rules, arena, or_comm]

theorem size_grammar (scopeName : String) (name : Option String) (draft : Draft ι ρ) :
    ((number none 0 draft).1.grammar scopeName name).rules.size = draft.size + 1 := by
  simp [grammar]

theorem map_fst_rules (outer : Scopes) (draft : Draft ι ρ) :
    (((number none 0 draft).1.rules outer).map (·.1)).Perm (List.range' 0 (draft.size + 1)) := by
  have hlabel : (own outer (number none 0 draft).1).1 = 0 + draft.size := by
    simp [own, number_label]
  rw [List.range'_1_concat, rules, List.map_cons, map_fst_block, hlabel]
  exact (List.perm_append_singleton ..).symm

theorem lookup_outermost (draft : Draft ι ρ) (name : String) :
    draft.outermost.lookup name = none := by
  unfold outermost
  split <;> rfl

theorem Alike.grammar_renamed {draft draft' : Draft Unit ρ} (h : draft.Alike draft')
    (scopeName : String) (name : Option String) :
    ∃ f, ((number none 0 draft).1.grammar scopeName name).Renamed f
      ((number none 0 draft').1.grammar scopeName name) := by
  generalize hnumbered : (number none 0 draft).1 = numbered
  generalize hnumbered' : (number none 0 draft').1 = numbered'
  obtain ⟨pairs, hroot, hpairs, hscopes⟩ := exists_pairing numbered numbered' (by
    rwa [← hnumbered, ← hnumbered', erase_number, erase_number])
  have hsources := (hpairs.sources []).symm.trans (hnumbered ▸ map_fst_rules [] draft)
  have htargets := (hpairs.targets []).symm.trans (hnumbered' ▸ map_fst_rules [] draft')
  have hsize : draft'.size = draft.size := by
    have := hsources.length_eq
    have := htargets.length_eq
    simp only [List.length_map, List.length_range'] at *
    omega
  obtain ⟨f, hinjective, hf, hfixed⟩ := exists_renaming hsources (hsize ▸ htargets)
  have houtermost : Renames f numbered.outermost numbered'.outermost := by
    intro name
    rw [lookup_outermost, lookup_outermost]
    rfl
  refine ⟨f, hinjective, rfl, rfl, ?_, ?_, fun id => ?_, fun name => ?_⟩
  · rw [← hnumbered, ← hnumbered', size_grammar, size_grammar, hsize]
  · exact (hf _ hroot).symm
  · have hrules := mem_rules_iff scopeName name draft
    have hrules' := mem_rules_iff scopeName name draft'
    simp only [hnumbered, hnumbered'] at hrules hrules'
    unfold Grammar.rule
    cases hrule : (numbered.grammar scopeName name).rules[id]? with
    | some rule =>
      have hmem := hpairs.renames hf houtermost _ ((hrules id rule).mpr hrule)
      rw [(hrules' _ _).mp hmem]
      rfl
    | none =>
      have hle : draft.size + 1 ≤ id := by
        rw [← size_grammar scopeName name draft, hnumbered]
        exact Array.getElem?_eq_none_iff.mp hrule
      have hnone : (numbered'.grammar scopeName name).rules[id]? = none := by
        rw [Array.getElem?_eq_none_iff, ← hnumbered', size_grammar, hsize]
        exact hle
      rw [hfixed id hle, hnone]
      rfl
  · have hlookup := hscopes f _ _ hf houtermost name
    simp only [lookup_scopes, lookup_outermost] at hlookup
    simpa [Grammar.repositoryRule, grammar] using hlookup

end Draft

/-- The order in which a grammar document has the entries of its maps decides nothing but the
places of the rules. -/
theorem Grammar.compile_renamed {engine : Engine ρ} {written other : Written.Grammar}
    {grammar : Grammar ρ} (hkeyed : written.body.Keyed) (hreorders : written.Reorders other)
    (h : Grammar.compile engine written = .ok grammar) :
    ∃ f other', Grammar.compile engine other = .ok other' ∧ grammar.Renamed f other' := by
  have hkeyed' := hreorders.body.keyed _ _ hkeyed
  rw [Draft.compile_eq engine written hkeyed.named] at h
  rw [Draft.compile_eq engine other hkeyed'.named, hreorders.scopeName, hreorders.name]
  cases hname : written.scopeName with
  | none =>
    rw [hname] at h
    cases h
  | some scopeName =>
    rw [hname] at h
    cases hdraft : Draft.ofRule engine .pattern written.body with
    | error e =>
      rw [hdraft] at h
      cases h
    | ok draft =>
      rw [hdraft] at h
      obtain rfl := Except.ok.inj h
      obtain ⟨draft', hdraft', halike⟩ :=
        Draft.ofRule_follows engine .pattern _ _ hkeyed hreorders.body draft hdraft
      obtain ⟨f, hrenamed⟩ := halike.grammar_renamed scopeName written.name
      exact ⟨f, _, by rw [hdraft']; rfl, hrenamed⟩

end LineScopes
