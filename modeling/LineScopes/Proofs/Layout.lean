import Mathlib.Data.List.ReduceOption
import LineScopes.Proofs.FirstErrors
import LineScopes.Proofs.Pairing
import LineScopes.Proofs.Paths

/-!
# The layout of an arena

The parts that lead to a rule of a document lead to its draft as well, from the
draft of the top level. The place of that draft is where the compiled rule is.
-/

namespace LineScopes.Draft

open Compile (Scopes)
open Written (Part Path numbered)

-- ---------------------------------------------------------------------------
-- Lists side by side
-- ---------------------------------------------------------------------------

theorem exists_right {R : α → β → Prop} {xs : List α} {ys : List β} (h : List.Forall₂ R xs ys)
    {i : Nat} (hx : xs[i]? = some x) : ∃ y, ys[i]? = some y ∧ R x y := by
  induction h generalizing i with
  | nil => simp at hx
  | cons hfirst _ ih =>
    cases i with
    | zero =>
      obtain rfl := Option.some.inj hx
      exact ⟨_, rfl, hfirst⟩
    | succ i => exact ih hx

theorem exists_left {R : α → β → Prop} {xs : List α} {ys : List β} (h : List.Forall₂ R xs ys)
    {i : Nat} (hy : ys[i]? = some y) : ∃ x, xs[i]? = some x ∧ R x y :=
  exists_right h.flip hy

-- ---------------------------------------------------------------------------
-- The draft of a rule
-- ---------------------------------------------------------------------------

/-- What a rule is drafted to. -/
structure Fits (engine : Engine ρ) (rule : Written.Rule) (draft : Draft Unit ρ) : Prop where
  shape : rule.shape engine = .ok draft.shape
  repository : ofEntries engine rule.repository = .ok draft.repository
  opening : sorted (ofCaptures engine (rule.captureEntries false)) = .ok draft.opening
  closing : sorted (ofCaptures engine (rule.captureEntries true)) = .ok draft.closing
  patterns : ∃ listing, ofPatterns engine rule.inner = .ok (listing, draft.patterns) ∧
    draft.listing = rule.ownInclude?.toList.map some ++ listing

theorem sorted_none (engine : Engine ρ) : sorted (ofCaptures engine []) = .ok [] := by
  simp [sorted, ofCaptures]

theorem ofRule_fits {engine : Engine ρ} {role : Role} {rule : Written.Rule} {draft : Draft Unit ρ}
    (h : ofRule engine role rule = .ok draft) : Fits engine rule draft := by
  obtain ⟨name, contentName, matching, opening, closing, continuing, reference, shared,
    openingCaptures, closingCaptures, continuingCaptures, inner, repository, closingLast⟩ := rule
  simp only [ofRule, ← apply_ite] at h
  obtain ⟨entries, hentries, h⟩ := bind_ok.mp h
  cases matching with
  | some source =>
    obtain ⟨regex, hregex, h⟩ := bind_ok.mp h
    obtain ⟨captures, hcaptures, h⟩ := bind_ok.mp h
    cases h
    refine ⟨?_, hentries, hcaptures, sorted_none engine, [], rfl, rfl⟩
    simp only [Written.Rule.shape, hregex, ok_bind]
    rfl
  | none =>
    cases opening with
    | none =>
      obtain ⟨⟨listing, rules⟩, hrules, h⟩ := bind_ok.mp h
      cases h
      exact ⟨rfl, hentries, sorted_none engine, sorted_none engine, listing, hrules, rfl⟩
    | some opening =>
      cases continuing <;>
      · obtain ⟨regex, hregex, h⟩ := bind_ok.mp h
        obtain ⟨ending, hending, h⟩ := bind_ok.mp h
        obtain ⟨first, hfirst, h⟩ := bind_ok.mp h
        obtain ⟨second, hsecond, h⟩ := bind_ok.mp h
        obtain ⟨⟨listing, rules⟩, hrules, h⟩ := bind_ok.mp h
        cases h
        refine ⟨?_, hentries, hfirst, hsecond, listing, hrules, rfl⟩
        simp only [Written.Rule.shape, hregex, hending, ok_bind]
        rfl

-- ---------------------------------------------------------------------------
-- Drafts within drafts
-- ---------------------------------------------------------------------------

/-- A draft of a rule, whatever its labels are. -/
def IsOf (engine : Engine ρ) (role : Role) (rule : Written.Rule) (draft : Draft ι ρ) : Prop :=
  ofRule engine role rule = .ok draft.erase

theorem ofEntries_forall₂ {engine : Engine ρ} {entries : List (String × Written.Rule)}
    {drafts : List (Draft ι ρ)} (h : ofEntries engine entries = .ok (eraseAll drafts)) :
    List.Forall₂ (fun entry draft => IsOf engine (.entry entry.1) entry.2 draft) entries
      drafts := by
  induction entries generalizing drafts with
  | nil =>
    cases drafts with
    | nil => exact .nil
    | cons => cases h
  | cons entry rest ih =>
    obtain ⟨first, hfirst, h⟩ := bind_ok.mp h
    obtain ⟨others, hothers, h⟩ := bind_ok.mp h
    cases drafts with
    | nil => cases h
    | cons draft drafts =>
      obtain ⟨rfl, rfl⟩ := List.cons.inj (Except.ok.inj h)
      exact .cons hfirst (ih hothers)

theorem ofCaptures_eq (engine : Engine ρ) (captures : List (String × Written.Rule)) :
    ofCaptures engine captures =
      (captures.filterMap fun (key, rule) => (Text.number? key.toList).map (·, rule)).map
        fun capture => (capture.1, ofRule engine (.capture capture.1) capture.2) := by
  induction captures with
  | nil => rfl
  | cons entry rest ih =>
    obtain ⟨key, rule⟩ := entry
    simp only [ofCaptures, List.filterMap_cons]
    cases Text.number? key.toList with
    | none => exact ih
    | some number => exact congrArg _ ih

theorem sorted_forall₂ {engine : Engine ρ} {captures : List (String × Written.Rule)}
    {drafts : List (Draft ι ρ)}
    (h : sorted (ofCaptures engine captures) = .ok (eraseAll drafts)) :
    List.Forall₂ (fun capture draft => IsOf engine (.capture capture.1) capture.2 draft)
      (numbered captures) drafts := by
  have hordered : (ofCaptures engine captures).mergeSort (fun a b => a.1 ≤ b.1) =
      (numbered captures).map fun capture =>
        (capture.1, ofRule engine (.capture capture.1) capture.2) := by
    rw [ofCaptures_eq, numbered, List.map_mergeSort]
    exact fun _ _ _ _ => rfl
  rw [eraseAll_eq_map] at h
  simp only [sorted, hordered] at h
  have hmapM : ((numbered captures).map fun capture =>
      (capture.1, ofRule engine (.capture capture.1) capture.2)).mapM (·.2) =
        .ok (drafts.map erase) := by
    split at h
    · split at h
      · exact h
      · contradiction
    · next hlast =>
      rw [List.getLast?_eq_none_iff.mp hlast]
      exact h
  have hall := mapM_eq_ok_iff.mp hmapM
  rwa [List.forall₂_map_left_iff, List.forall₂_map_right_iff] at hall

/-- The drafts among the entries of patterns, each where its entry is. -/
def spread : List (Option String) → List (Draft ι ρ) → List (Option (Draft ι ρ))
  | [], _ => []
  | some _ :: listing, drafts => none :: spread listing drafts
  | none :: listing, draft :: drafts => some draft :: spread listing drafts
  | none :: listing, [] => none :: spread listing []

/-- What stands where an entry of patterns is. -/
def IsSlot (engine : Engine ρ) (entry : Written.Rule) : Option (Draft ι ρ) → Prop
  | none => entry.onlyInclude?.isSome
  | some draft => entry.onlyInclude? = none ∧ IsOf engine .pattern entry draft

theorem ofPatterns_spread {engine : Engine ρ} {entries : List Written.Rule}
    {listing : List (Option String)} {drafts : List (Draft ι ρ)}
    (h : ofPatterns engine entries = .ok (listing, eraseAll drafts)) :
    listing = entries.map (·.onlyInclude?) ∧
      List.Forall₂ (IsSlot engine) entries (spread listing drafts) ∧
      (spread listing drafts).reduceOption = drafts := by
  induction entries generalizing listing drafts with
  | nil =>
    cases drafts with
    | nil =>
      cases h
      exact ⟨rfl, .nil, rfl⟩
    | cons => cases h
  | cons entry rest ih =>
    simp only [ofPatterns] at h
    rw [← Written.Rule.onlyInclude?] at h
    cases hentry : entry.onlyInclude? with
    | some reference =>
      rw [hentry] at h
      obtain ⟨⟨others, rules⟩, hrest, h⟩ := bind_ok.mp h
      obtain ⟨rfl, rfl⟩ := Prod.mk.inj (Except.ok.inj h)
      obtain ⟨rfl, hslots, hreduce⟩ := ih hrest
      exact ⟨by rw [List.map_cons, hentry], .cons (by simp [IsSlot, hentry]) hslots, hreduce⟩
    | none =>
      rw [hentry] at h
      obtain ⟨first, hfirst, h⟩ := bind_ok.mp h
      obtain ⟨⟨others, rules⟩, hrest, h⟩ := bind_ok.mp h
      cases drafts with
      | nil => cases h
      | cons draft drafts =>
        obtain ⟨rfl, hdrafts⟩ := Prod.mk.inj (Except.ok.inj h)
        obtain ⟨rfl, rfl⟩ := List.cons.inj hdrafts
        obtain ⟨rfl, hslots, hreduce⟩ := ih hrest
        refine ⟨by rw [List.map_cons, hentry], .cons ⟨hentry, hfirst⟩ hslots, ?_⟩
        exact congrArg _ hreduce

-- ---------------------------------------------------------------------------
-- Parts of drafts
-- ---------------------------------------------------------------------------

def captures (draft : Draft ι ρ) (second : Bool) : List (Draft ι ρ) :=
  if second then draft.closing else draft.opening

/-- The drafts among the entries of the patterns of a rule. -/
def slots (rule : Written.Rule) (draft : Draft ι ρ) : List (Option (Draft ι ρ)) :=
  spread (rule.inner.map (·.onlyInclude?)) draft.patterns

def part? (rule : Written.Rule) (draft : Draft ι ρ) : Part → Option (Draft ι ρ)
  | .entry name => draft.repository.find? (·.role = .entry name)
  | .capture second rank => (draft.captures second)[rank]?
  | .pattern index => (draft.slots rule)[index]?.join
  | .reference _ => none

def children (draft : Draft ι ρ) : List (Draft ι ρ) :=
  draft.repository ++ (draft.opening ++ (draft.closing ++ draft.patterns))

namespace IsOf

variable {engine : Engine ρ} {role : Role} {rule inner : Written.Rule} {draft : Draft ι ρ}
  (h : IsOf engine role rule draft)
include h

theorem role_eq : draft.role = role := by
  rw [← erase_role]
  exact ofRule_role h

theorem shape : rule.shape engine = .ok draft.shape := by
  have hfits := (ofRule_fits h).shape
  cases draft
  exact hfits

theorem repository : List.Forall₂ (fun entry draft => IsOf engine (.entry entry.1) entry.2 draft)
    rule.repository draft.repository := by
  have hfits := (ofRule_fits h).repository
  cases draft
  exact ofEntries_forall₂ hfits

theorem captures (second : Bool) :
    List.Forall₂ (fun capture draft => IsOf engine (.capture capture.1) capture.2 draft)
      (rule.capturesFor second) (draft.captures second) := by
  have hopening := (ofRule_fits h).opening
  have hclosing := (ofRule_fits h).closing
  cases draft
  cases second with
  | false => exact sorted_forall₂ hopening
  | true => exact sorted_forall₂ hclosing

theorem patterns :
    draft.listing = rule.ownInclude?.toList.map some ++ rule.inner.map (·.onlyInclude?) ∧
      List.Forall₂ (IsSlot engine) rule.inner (draft.slots rule) ∧
      (draft.slots rule).reduceOption = draft.patterns := by
  obtain ⟨listing, hpatterns, hlisting⟩ := (ofRule_fits h).patterns
  cases draft
  obtain ⟨rfl, hslots, hreduce⟩ := ofPatterns_spread hpatterns
  exact ⟨hlisting, hslots, hreduce⟩

end IsOf

theorem lookup_find? {engine : Engine ρ} {entries : List (String × Written.Rule)}
    {drafts : List (Draft ι ρ)}
    (h : List.Forall₂ (fun entry draft => IsOf engine (.entry entry.1) entry.2 draft) entries
      drafts) (name : String) :
    Option.Rel (IsOf engine (.entry name)) (entries.lookup name)
      (drafts.find? (·.role = .entry name)) := by
  induction h with
  | nil => exact .none
  | @cons entry draft _ _ hfirst _ ih =>
    obtain ⟨key, rule⟩ := entry
    rw [List.lookup_cons, List.find?_cons, hfirst.role_eq]
    by_cases hkey : name = key
    · subst hkey
      simpa using Option.Rel.some hfirst
    · have hne : (name == key) = false := by simpa using hkey
      have hrole : decide (Role.entry key = .entry name) = false := by simpa using Ne.symm hkey
      rw [hne, hrole]
      exact ih

theorem lookup_places (drafts : List (Draft RuleId ρ)) (name : String) :
    (places drafts).lookup name = (drafts.find? (·.role = .entry name)).map (·.label) := by
  induction drafts with
  | nil => rfl
  | cons draft rest ih =>
    simp only [places, List.filterMap_cons, List.find?_cons] at ih ⊢
    cases draft.role with
    | capture group => simpa using ih
    | pattern => simpa using ih
    | entry key =>
      rw [List.lookup_cons]
      by_cases hkey : name = key
      · simp [hkey]
      · have hne : (name == key) = false := by simpa using hkey
        simp [hne, Ne.symm hkey, ih]

theorem IsOf.part {engine : Engine ρ} {role : Role} {rule inner : Written.Rule}
    {draft : Draft ι ρ} (h : IsOf engine role rule draft) {part : Part}
    (hpart : rule.part? part = some inner) (hcompiled : ∀ index, part ≠ .reference index) :
    ∃ found, draft.part? rule part = some found ∧ found ∈ draft.children ∧
      ∃ role, IsOf engine role inner found := by
  cases part with
  | entry name =>
    have hrel := lookup_find? h.repository name
    rw [show rule.repository.lookup name = some inner from hpart] at hrel
    simp only [part?]
    generalize hfound : draft.repository.find? _ = found at hrel ⊢
    cases hrel with
    | some hinner =>
      exact ⟨_, rfl, List.mem_append_left _ (List.mem_of_find?_eq_some hfound), _, hinner⟩
  | capture second rank =>
    obtain ⟨⟨group, _⟩, hrank, rfl⟩ := Option.map_eq_some_iff.mp hpart
    obtain ⟨found, hfound, hinner⟩ := exists_right (h.captures second) hrank
    refine ⟨found, hfound, ?_, _, hinner⟩
    have hmem := List.mem_of_getElem? hfound
    cases second <;> simp_all [Draft.captures, children]
  | pattern index =>
    obtain ⟨hindex, hrule⟩ := Option.filter_eq_some_iff.mp hpart
    obtain ⟨-, hslots, hreduce⟩ := h.patterns
    obtain ⟨slot, hslot, hinner⟩ := exists_right hslots hindex
    cases slot with
    | none => simp_all [IsSlot]
    | some found =>
      refine ⟨found, ?_, ?_, _, hinner.2⟩
      · simp [part?, hslot]
      · have hmem : found ∈ draft.patterns := by
          rw [← hreduce, List.reduceOption_mem_iff]
          exact List.mem_of_getElem? hslot
        simp [children, hmem]
  | reference index => exact absurd rfl (hcompiled index)

-- ---------------------------------------------------------------------------
-- Paths to drafts
-- ---------------------------------------------------------------------------

def at? (top : Written.Rule) (draft : Draft ι ρ) : Path → Option (Draft ι ρ)
  | [] => some draft
  | part :: path => do
    let rule ← top.at? path
    let around ← at? top draft path
    around.part? rule part

/-- The places of the rules that paths lead to. -/
def layout (top : Written.Rule) (draft : Draft RuleId ρ) (path : Path) : RuleId :=
  ((at? top draft path).map (·.label)).getD 0

theorem at?_cons {top rule : Written.Rule} {draft around : Draft ι ρ} {path : Path}
    (hrule : top.at? path = some rule) (haround : at? top draft path = some around) (part : Part) :
    at? top draft (part :: path) = around.part? rule part := by
  simp [at?, hrule, haround]

theorem layout_of_at? {top : Written.Rule} {draft found : Draft RuleId ρ} {path : Path}
    (h : at? top draft path = some found) : layout top draft path = found.label := by
  simp [layout, h]

/-- A path leads to a draft whose rules are in the arena, and whose names mean what they mean in
the document. -/
structure Located (engine : Engine ρ) (top : Written.Rule) (draft : Draft RuleId ρ) (path : Path)
    (rule : Written.Rule) (found : Draft RuleId ρ) (outer : Scopes) : Prop where
  ruleAt : top.at? path = some rule
  draftAt : at? top draft path = some found
  isOf : ∃ role, IsOf engine role rule found
  rules : found.rules outer ⊆ draft.rules draft.outermost
  scopes (name : String) :
    (found.scopes outer).lookup name = (top.resolve? path name).map (layout top draft)

section

variable {engine : Engine ρ} {role : Role} {top rule : Written.Rule}
  {draft found : Draft RuleId ρ} {path : Path} {outer : Scopes}

/-- A name means an entry of a rule, or else what it means around it. -/
theorem lookup_scopes_at (hrule : top.at? path = some rule)
    (hdraft : at? top draft path = some found) (hisOf : ∃ role, IsOf engine role rule found)
    (outer : Scopes) (name : String) :
    (found.scopes outer).lookup name =
      if (top.at? (.entry name :: path)).isSome then some (layout top draft (.entry name :: path))
      else outer.lookup name := by
  obtain ⟨role, hisOf⟩ := hisOf
  have hentry : top.at? (.entry name :: path) = rule.repository.lookup name := by
    rw [Written.Rule.at?, hrule]
    rfl
  have hlayout : layout top draft (.entry name :: path) =
      ((found.repository.find? (·.role = .entry name)).map (·.label)).getD 0 := by
    rw [layout, at?_cons hrule hdraft]
    rfl
  rw [lookup_scopes, lookup_places, hentry, hlayout]
  have hrel := lookup_find? hisOf.repository name
  generalize rule.repository.lookup name = entry at hrel ⊢
  generalize found.repository.find? _ = inner at hrel ⊢
  cases hrel <;> rfl

theorem within_eq (draft : Draft RuleId ρ) (scopes : Scopes) :
    draft.within scopes = draft.children.flatMap (·.rules scopes) := by
  simp [within, rulesAll, children]

theorem rules_subset_of_mem_children (hmem : found ∈ draft.children) (outer : Scopes) :
    found.rules (draft.scopes outer) ⊆ draft.rules outer := by
  intro x hx
  refine List.mem_cons_of_mem _ ((block_perm outer draft).mem_iff.mpr ?_)
  rw [within_eq]
  exact List.mem_flatMap.mpr ⟨found, hmem, hx⟩

theorem Located.nil (h : IsOf engine role top draft) :
    Located engine top draft [] top draft draft.outermost where
  ruleAt := rfl
  draftAt := rfl
  isOf := ⟨_, h⟩
  rules := List.Subset.refl _
  scopes name := by
    have hdraft : at? top draft [] = some draft := rfl
    rw [lookup_scopes_at rfl hdraft ⟨_, h⟩, Written.Rule.resolve?_nil, lookup_outermost]
    split <;> rfl

theorem Located.child (h : Located engine top draft path rule found outer) {part : Part}
    {inner : Written.Rule} {child : Draft RuleId ρ} (hpart : rule.part? part = some inner)
    (hchild : found.part? rule part = some child) (hmem : child ∈ found.children)
    (hisOf : ∃ role, IsOf engine role inner child) :
    Located engine top draft (part :: path) inner child (found.scopes outer) := by
  have hrule : top.at? (part :: path) = some inner := by
    rw [Written.Rule.at?, h.ruleAt]
    exact hpart
  have hdraft : at? top draft (part :: path) = some child := by
    rw [at?_cons h.ruleAt h.draftAt]
    exact hchild
  refine ⟨hrule, hdraft, hisOf,
    List.Subset.trans (rules_subset_of_mem_children hmem outer) h.rules, fun name => ?_⟩
  rw [lookup_scopes_at hrule hdraft hisOf, Written.Rule.resolve?_cons, h.scopes]
  split <;> rfl

theorem exists_located (h : IsOf engine role top draft) (hrule : top.at? path = some rule)
    (hcompiled : path.IsCompiled) :
    ∃ found outer, Located engine top draft path rule found outer := by
  -- from the top level inwards: a child finds its names in the scopes of the draft around it
  induction path generalizing rule with
  | nil =>
    obtain rfl := Option.some.inj hrule
    exact ⟨_, _, .nil h⟩
  | cons part path ih =>
    obtain ⟨around, haround, hpart⟩ := Option.bind_eq_some_iff.mp hrule
    obtain ⟨found, outer, hlocated⟩ := ih haround fun index hmem =>
      hcompiled index (List.mem_cons_of_mem _ hmem)
    obtain ⟨_, hisOf⟩ := hlocated.isOf
    obtain ⟨child, hchild, hmem, hinner⟩ := hisOf.part hpart fun index hreference =>
      hcompiled index (hreference ▸ List.mem_cons_self)
    exact ⟨child, _, hlocated.child hpart hchild hmem hinner⟩

-- ---------------------------------------------------------------------------
-- Rules in their places
-- ---------------------------------------------------------------------------

theorem captureIds_eq {engine : Engine ρ} {captures : List (Nat × Written.Rule)}
    {drafts : List (Draft RuleId ρ)}
    (h : List.Forall₂ (fun capture draft => IsOf engine (.capture capture.1) capture.2 draft)
      captures drafts) :
    captureIds drafts =
      Written.lastOfEach (List.zipWith (fun capture draft => (capture.1, draft.label)) captures
        drafts) := by
  induction h with
  | nil => rfl
  | cons hfirst _ ih => simp only [captureIds, hfirst.role_eq, ih, List.zipWith_cons_cons,
      Written.lastOfEach]

theorem references_append (scopes : Scopes) (own : Option String) (listing : List (Option String))
    (drafts : List (Draft RuleId ρ)) :
    references scopes (own.toList.map some ++ listing) drafts =
      (own.bind (Compile.include? scopes)).toList ++ references scopes listing drafts := by
  cases own <;> rfl

def contribution (scopes : Scopes) (entry : Written.Rule) (slot : Option (Draft RuleId ρ)) :
    List PatternRef :=
  match entry.onlyInclude? with
  | some text => (Compile.include? scopes text).toList
  | none => [.rule ((slot.map (·.label)).getD 0)]

theorem references_eq {engine : Engine ρ} (scopes : Scopes) {entries : List Written.Rule}
    {drafts : List (Draft RuleId ρ)}
    (h : List.Forall₂ (IsSlot engine) entries (spread (entries.map (·.onlyInclude?)) drafts)) :
    references scopes (entries.map (·.onlyInclude?)) drafts =
      (List.zipWith (contribution scopes) entries
        (spread (entries.map (·.onlyInclude?)) drafts)).flatten := by
  induction entries generalizing drafts with
  | nil => rfl
  | cons entry rest ih =>
    rw [List.map_cons] at h ⊢
    cases hentry : entry.onlyInclude? with
    | some text =>
      rw [hentry] at h
      obtain ⟨-, hrest⟩ := List.forall₂_cons.mp h
      simp [references, spread, contribution, hentry, ih hrest]
    | none =>
      rw [hentry] at h
      cases drafts with
      | nil =>
        obtain ⟨hfirst, -⟩ := List.forall₂_cons.mp h
        simp [IsSlot, hentry] at hfirst
      | cons draft drafts =>
        obtain ⟨-, hrest⟩ := List.forall₂_cons.mp h
        simp [references, spread, contribution, hentry, ih hrest]

namespace Located

variable (h : Located engine top draft path rule found outer)
include h

theorem include?_eq (text : String) : Compile.include? (found.scopes outer) text =
    top.meaning? (layout top draft) path text := by
  unfold Written.Rule.meaning?
  split
  · next name htext =>
    simp only [Compile.include?, htext, h.scopes, Option.map_map]
    rfl
  · next hlocal =>
    unfold Compile.include?
    split
    · rfl
    · rfl
    · next name htext => exact absurd htext (hlocal name)
    · rfl

theorem layout_part {part : Part} {child : Draft RuleId ρ}
    (hchild : found.part? rule part = some child) :
    layout top draft (part :: path) = child.label :=
  layout_of_at? ((at?_cons h.ruleAt h.draftAt part).trans hchild)

theorem compiledCaptures_eq (second : Bool) : captureIds (found.captures second) =
    rule.compiledCaptures (layout top draft) path second := by
  obtain ⟨_, hisOf⟩ := h.isOf
  have hcaptures := hisOf.captures second
  rw [captureIds_eq hcaptures, Written.Rule.compiledCaptures]
  congr 1
  apply List.ext_getElem?
  intro rank
  rw [List.getElem?_zipWith, List.getElem?_mapIdx]
  cases hcapture : (rule.capturesFor second)[rank]? with
  | none => rfl
  | some capture =>
    obtain ⟨child, hchild, -⟩ := exists_right hcaptures hcapture
    have hpart : found.part? rule (.capture second rank) = some child := hchild
    simp only [hchild, Option.map_some, h.layout_part hpart]

theorem compiledPatterns_eq : references (found.scopes outer) found.listing found.patterns =
    top.compiledPatterns (layout top draft) path rule := by
  obtain ⟨_, hisOf⟩ := h.isOf
  obtain ⟨hlisting, hslots, -⟩ := hisOf.patterns
  rw [hlisting, references_append, references_eq _ hslots, Written.Rule.compiledPatterns,
    Written.Rule.contributions, funext h.include?_eq]
  congr 2
  apply List.ext_getElem?
  intro index
  rw [List.getElem?_zipWith, List.getElem?_mapIdx]
  cases hentry : rule.inner[index]? with
  | none => rfl
  | some entry =>
    obtain ⟨slot, hslot, hisSlot⟩ := exists_right hslots hentry
    have hspread : (spread (rule.inner.map (·.onlyInclude?)) found.patterns)[index]? = some slot :=
      hslot
    rw [hspread]
    simp only [contribution, Option.map_some, Option.some.injEq]
    cases hinclude : entry.onlyInclude? with
    | some text => simp only [h.include?_eq]
    | none =>
      cases slot with
      | none => simp [IsSlot, hinclude] at hisSlot
      | some child =>
        have hchild : found.part? rule (.pattern index) = some child := by simp [part?, hslot]
        rw [h.layout_part hchild]
        rfl

theorem rule_eq : ∃ shape, rule.shape engine = .ok shape ∧
    found.rule outer = top.compiled (layout top draft) path rule shape := by
  obtain ⟨_, hisOf⟩ := h.isOf
  refine ⟨found.shape, hisOf.shape, ?_⟩
  rw [Draft.rule, Written.Rule.compiled, ← h.compiledCaptures_eq, ← h.compiledCaptures_eq,
    h.compiledPatterns_eq]
  rfl

end Located

-- ---------------------------------------------------------------------------
-- Paths to all drafts
-- ---------------------------------------------------------------------------

theorem role_injOn_repository {rule : Written.Rule} {draft : Draft ι ρ}
    (h : IsOf engine role rule draft) (hnodup : (rule.repository.map (·.1)).Nodup) :
    ∀ entry ∈ draft.repository, ∀ other ∈ draft.repository, entry.role = other.role →
      entry = other := by
  have hroles : draft.repository.map (·.role) = rule.repository.map (.entry ·.1) := by
    have hrepository := h.repository
    generalize rule.repository = entries at hrepository
    generalize draft.repository = drafts at hrepository
    induction hrepository with
    | nil => rfl
    | cons hfirst _ ih => rw [List.map_cons, List.map_cons, hfirst.role_eq, ih]
  have hnodup : (draft.repository.map (·.role)).Nodup := by
    rw [hroles]
    have hnames := hnodup.map (f := Role.entry) fun _ _ h => Role.entry.inj h
    rwa [List.map_map] at hnames
  exact fun entry hentry other hother => List.inj_on_of_nodup_map hnodup hentry hother

theorem part?_entry {rule : Written.Rule} {draft child : Draft ι ρ}
    (h : IsOf engine role rule draft) (hnodup : (rule.repository.map (·.1)).Nodup)
    (hmem : child ∈ draft.repository) (hrole : child.role = .entry name) :
    draft.part? rule (.entry name) = some child := by
  change draft.repository.find? (·.role = .entry name) = some child
  have hsome : (draft.repository.find? (·.role = .entry name)).isSome :=
    List.find?_isSome.mpr ⟨child, hmem, by simpa using hrole⟩
  obtain ⟨found, hfound⟩ := Option.isSome_iff_exists.mp hsome
  have hsame : found.role = .entry name := by simpa using List.find?_some hfound
  rw [hfound, role_injOn_repository h hnodup found (List.mem_of_find?_eq_some hfound) child hmem
    (hsame.trans hrole.symm)]

theorem IsOf.exists_part {rule : Written.Rule} {draft child : Draft ι ρ}
    (h : IsOf engine role rule draft) (hnamed : rule.Named) (hmem : child ∈ draft.children) :
    ∃ part inner, (∀ index, part ≠ .reference index) ∧ rule.part? part = some inner ∧
      draft.part? rule part = some child ∧ ∃ role, IsOf engine role inner child := by
  have hcapture : ∀ second, child ∈ draft.captures second → ∃ part inner,
      (∀ index, part ≠ .reference index) ∧ rule.part? part = some inner ∧
        draft.part? rule part = some child ∧ ∃ role, IsOf engine role inner child := by
    intro second hmem
    obtain ⟨rank, hrank⟩ := List.mem_iff_getElem?.mp hmem
    obtain ⟨capture, hcapture, hinner⟩ := exists_left (h.captures second) hrank
    exact ⟨.capture second rank, capture.2, nofun, by simp [Written.Rule.part?, hcapture], hrank,
      _, hinner⟩
  simp only [children, List.mem_append] at hmem
  obtain hmem | hmem | hmem | hmem := hmem
  · obtain ⟨i, hi⟩ := List.mem_iff_getElem?.mp hmem
    obtain ⟨⟨name, inner⟩, hentry, hinner⟩ := exists_left h.repository hi
    have hlookup := (lookup_eq_some_of_nodup hnamed.nodup).mpr (List.mem_of_getElem? hentry)
    exact ⟨.entry name, inner, nofun, hlookup, part?_entry h hnamed.nodup hmem hinner.role_eq,
      _, hinner⟩
  · exact hcapture false hmem
  · exact hcapture true hmem
  · obtain ⟨-, hslots, hreduce⟩ := h.patterns
    rw [← hreduce, List.reduceOption_mem_iff] at hmem
    obtain ⟨index, hindex⟩ := List.mem_iff_getElem?.mp hmem
    obtain ⟨inner, hinner, hnone, hisOf⟩ := exists_left hslots hindex
    exact ⟨.pattern index, inner, nofun, by simp [Written.Rule.part?, hinner, hnone],
      by simp [Draft.part?, hindex], _, hisOf⟩

theorem size_le_sizeAll {child : Draft ι ρ} {drafts : List (Draft ι ρ)} (hmem : child ∈ drafts)
    (placed : Bool) : child.size + (if placed then 0 else 1) ≤ sizeAll placed drafts := by
  induction drafts with
  | nil => contradiction
  | cons first rest ih =>
    rw [sizeAll]
    rcases List.mem_cons.mp hmem with rfl | hmem
    · exact Nat.le_add_right _ _
    · exact Nat.le_trans (ih hmem) (Nat.le_add_left _ _)

theorem size_lt_of_mem_children {child draft : Draft ι ρ} (hmem : child ∈ draft.children) :
    child.size < draft.size := by
  obtain ⟨label, role, shape, listing, repository, opening, closing, patterns⟩ := draft
  simp only [children, List.mem_append] at hmem
  rw [size]
  obtain hmem | hmem | hmem | hmem := hmem
  · have hchild := size_le_sizeAll hmem true
    have hpos := List.length_pos_of_mem hmem
    simp only [if_true] at hchild
    omega
  all_goals
    have hchild := size_le_sizeAll hmem false
    simp only [Bool.false_eq_true, if_false] at hchild
    omega

theorem exists_child_of_mem_block {draft : Draft RuleId ρ} {outer : Scopes}
    (h : x ∈ draft.block outer) :
    ∃ child ∈ draft.children, x ∈ child.rules (draft.scopes outer) := by
  have hwithin := (block_perm outer draft).mem_iff.mp h
  rw [within_eq] at hwithin
  exact List.mem_flatMap.mp hwithin

/-- A path leads to every rule that a draft brings into the arena. -/
theorem Located.exists_of_mem_rules (h : Located engine top draft path rule found outer)
    (hcompiled : path.IsCompiled) (hnamed : rule.Named) (hmem : x ∈ found.rules outer) :
    ∃ path rule found outer, path.IsCompiled ∧ Located engine top draft path rule found outer ∧
      x = own outer found := by
  -- the path gets longer while the drafts that it leads to get smaller
  induction hsize : found.size using Nat.strongRecOn generalizing path rule found outer with
  | ind size ih =>
    rcases List.mem_cons.mp hmem with rfl | hmem
    · exact ⟨path, rule, found, outer, hcompiled, h, rfl⟩
    · obtain ⟨child, hchild, hmem⟩ := exists_child_of_mem_block hmem
      obtain ⟨_, hisOf⟩ := h.isOf
      obtain ⟨part, inner, hreference, hpart, hfound, hinner⟩ := hisOf.exists_part hnamed hchild
      refine ih child.size (hsize ▸ size_lt_of_mem_children hchild)
        (h.child hpart hfound hchild hinner) ?_ (hnamed.part hpart) hmem rfl
      intro index hindex
      rcases List.mem_cons.mp hindex with hfirst | hindex
      · exact hreference index hfirst.symm
      · exact hcompiled index hindex

theorem places_eq {entries : List (String × Written.Rule)} {drafts : List (Draft RuleId ρ)}
    (h : List.Forall₂ (fun entry draft => IsOf engine (.entry entry.1) entry.2 draft) entries
      drafts) :
    places drafts = List.zipWith (fun entry draft => (entry.1, draft.label)) entries drafts := by
  induction h with
  | nil => rfl
  | cons hfirst _ ih =>
    unfold places at ih
    simp only [places, List.filterMap_cons, hfirst.role_eq, ih, List.zipWith_cons_cons]

end

end LineScopes.Draft

namespace LineScopes

theorem Grammar.exists_draft {engine : Engine ρ} {written : Written.Grammar}
    {grammar : Grammar ρ} (hnamed : written.body.Named)
    (h : Grammar.compile engine written = .ok grammar) :
    ∃ draft : Draft RuleId ρ, Draft.IsOf engine .pattern written.body draft ∧
      grammar.root = draft.label ∧ grammar.repository = Draft.places draft.repository ∧
      ∀ id rule, (id, rule) ∈ draft.rules draft.outermost ↔ grammar.rules[id]? = some rule := by
  rw [Draft.compile_eq engine written hnamed] at h
  cases hname : written.scopeName with
  | none =>
    rw [hname] at h
    cases h
  | some scopeName =>
    rw [hname] at h
    cases hdraft : Draft.ofRule engine .pattern written.body with
    | error e =>
      rw [hdraft] at h
      cases h
    | ok draft =>
      rw [hdraft] at h
      obtain rfl := Except.ok.inj h
      refine ⟨(Draft.number none 0 draft).1, ?_, rfl, rfl,
        Draft.mem_rules_iff scopeName written.name draft⟩
      rw [Draft.IsOf, Draft.erase_number, hdraft]

open Draft in
/-- The rules of a document that compiles are laid out in the arena. -/
theorem Grammar.compile_lays {engine : Engine ρ} {written : Written.Grammar} {grammar : Grammar ρ}
    (hnamed : written.body.Named) (h : Grammar.compile engine written = .ok grammar) :
    ∃ layout, written.Lays engine layout grammar := by
  obtain ⟨draft, hisOf, hroot, hrepository, hrules⟩ := Grammar.exists_draft hnamed h
  refine ⟨layout written.body draft, hroot, ?_, fun path rule hrule hcompiled => ?_,
    fun id hid => ?_⟩
  · rw [hrepository, places_eq hisOf.repository]
    apply List.ext_getElem?
    intro i
    have hbody : written.body.repository = written.repository := rfl
    rw [List.getElem?_zipWith, List.getElem?_map, hbody]
    cases hentry : written.repository[i]? with
    | none => rfl
    | some entry =>
      obtain ⟨child, hchild, hinner⟩ := exists_right hisOf.repository hentry
      have hfound := part?_entry hisOf hnamed.nodup (List.mem_of_getElem? hchild) hinner.role_eq
      have hplace := (Located.nil hisOf).layout_part hfound
      simp only [hchild, Option.map_some, hplace]
  · obtain ⟨found, outer, hlocated⟩ := exists_located hisOf hrule hcompiled
    obtain ⟨shape, hshape, hcompiled⟩ := hlocated.rule_eq
    refine ⟨shape, hshape, ?_⟩
    rw [layout_of_at? hlocated.draftAt, ← hcompiled]
    exact (hrules _ _).mp (hlocated.rules List.mem_cons_self)
  · have hmem := (hrules id _).mpr (Array.getElem?_eq_getElem hid)
    obtain ⟨path, rule, found, outer, hcompiled, hlocated, hown⟩ :=
      (Located.nil hisOf).exists_of_mem_rules nofun hnamed hmem
    refine ⟨path, rule, hlocated.ruleAt, hcompiled, ?_⟩
    rw [layout_of_at? hlocated.draftAt]
    exact (congrArg Prod.fst hown).symm

end LineScopes
