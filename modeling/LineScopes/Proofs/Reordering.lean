import Mathlib.Data.List.Forall2
import Mathlib.Data.List.Nodup
import LineScopes.Proofs.Stages

/-!
# Maps in another order

The repositories and the captures of a grammar document are maps, which have
their entries in no order. Two orders of them lead to drafts that differ in
nothing but the order of their repositories: captures are sorted by the
numbers of their groups.
-/

namespace LineScopes

-- ---------------------------------------------------------------------------
-- Reordered documents
-- ---------------------------------------------------------------------------

namespace Written

mutual

/-- The same rule with the entries of its maps, and of all maps within it, in another order. -/
def Rule.Reorders : Rule → Rule → Prop
  | ⟨name, contentName, matching, opening, closing, continuing, reference, captures,
      openingCaptures, closingCaptures, continuingCaptures, patterns, repository, closingLast⟩,
      other =>
    other = { other with
      name, contentName, matching, opening, closing, continuing, reference, closingLast } ∧
    (∃ moved, other.captures.Perm moved ∧ EntriesReorder captures moved) ∧
    (∃ moved, other.openingCaptures.Perm moved ∧ EntriesReorder openingCaptures moved) ∧
    (∃ moved, other.closingCaptures.Perm moved ∧ EntriesReorder closingCaptures moved) ∧
    (∃ moved, other.continuingCaptures.Perm moved ∧ EntriesReorder continuingCaptures moved) ∧
    RulesReorder patterns other.patterns ∧
    ∃ moved, other.repository.Perm moved ∧ EntriesReorder repository moved

/-- Entries with the same keys in the same order. Their rules are reordered. -/
def EntriesReorder : List (String × Rule) → List (String × Rule) → Prop
  | [], others => others = []
  | (key, rule) :: rest, others =>
    ∃ other others', others = (key, other) :: others' ∧ rule.Reorders other ∧
      EntriesReorder rest others'

/-- Lists have an order. -/
def RulesReorder : List Rule → List Rule → Prop
  | [], others => others = []
  | rule :: rest, others =>
    ∃ other others', others = other :: others' ∧ rule.Reorders other ∧ RulesReorder rest others'

end

mutual

theorem Rule.Reorders.refl (rule : Rule) : rule.Reorders rule := by
  obtain ⟨name, contentName, matching, opening, closing, continuing, reference, captures,
    openingCaptures, closingCaptures, continuingCaptures, patterns, repository, closingLast⟩ := rule
  exact ⟨rfl, ⟨_, .refl _, EntriesReorder.refl captures⟩,
    ⟨_, .refl _, EntriesReorder.refl openingCaptures⟩,
    ⟨_, .refl _, EntriesReorder.refl closingCaptures⟩,
    ⟨_, .refl _, EntriesReorder.refl continuingCaptures⟩, RulesReorder.refl patterns,
    ⟨_, .refl _, EntriesReorder.refl repository⟩⟩

theorem EntriesReorder.refl (entries : List (String × Rule)) : EntriesReorder entries entries := by
  match entries with
  | [] => rfl
  | (key, rule) :: rest =>
    exact ⟨rule, rest, rfl, Rule.Reorders.refl rule, EntriesReorder.refl rest⟩

theorem RulesReorder.refl (rules : List Rule) : RulesReorder rules rules := by
  match rules with
  | [] => rfl
  | rule :: rest => exact ⟨rule, rest, rfl, Rule.Reorders.refl rule, RulesReorder.refl rest⟩

end

structure Grammar.Reorders (written other : Grammar) : Prop where
  scopeName : other.scopeName = written.scopeName
  name : other.name = written.name
  body : written.body.Reorders other.body

theorem EntriesReorder.map_fst {entries moved : List (String × Rule)}
    (h : EntriesReorder entries moved) : moved.map (·.1) = entries.map (·.1) := by
  induction entries generalizing moved with
  | nil =>
    obtain rfl : moved = [] := h
    rfl
  | cons entry rest ih =>
    obtain ⟨other, others, rfl, -, hrest⟩ := h
    simp only [List.map_cons, ih hrest]

/-- The same entries in another order. Their rules are reordered. -/
def MapReorders (entries others : List (String × Rule)) : Prop :=
  ∃ moved, others.Perm moved ∧ EntriesReorder entries moved

theorem MapReorders.map_fst {entries others : List (String × Rule)}
    (h : MapReorders entries others) : (others.map (·.1)).Perm (entries.map (·.1)) := by
  obtain ⟨moved, hperm, hmoved⟩ := h
  rw [← hmoved.map_fst]
  exact hperm.map _

theorem MapReorders.isEmpty_eq {entries others : List (String × Rule)}
    (h : MapReorders entries others) : others.isEmpty = entries.isEmpty := by
  rw [← List.isEmpty_map (f := (·.1)) (l := entries), ← h.map_fst.isEmpty_eq, List.isEmpty_map]

theorem RulesReorder.isEmpty_eq {rules others : List Rule} (h : RulesReorder rules others) :
    others.isEmpty = rules.isEmpty := by
  cases rules with
  | nil =>
    obtain rfl : others = [] := h
    rfl
  | cons rule rest =>
    obtain ⟨other, others, rfl, -⟩ := h
    rfl

theorem EntriesKeyed.of_perm {entries others : List (String × Rule)} (h : others.Perm entries)
    (hkeyed : EntriesKeyed entries) : EntriesKeyed others := by
  have hall : ∀ {entries : List (String × Rule)},
      EntriesKeyed entries ↔ ∀ entry ∈ entries, entry.2.Keyed := by
    intro entries
    induction entries with
    | nil => simp [EntriesKeyed]
    | cons entry rest ih => simp only [EntriesKeyed, ih, List.forall_mem_cons]
  exact hall.mpr fun entry hentry => hall.mp hkeyed entry (h.mem_iff.mp hentry)

theorem nodup_groupNumbers {entries others : List (String × Rule)} (h : MapReorders entries others)
    (hnodup : (groupNumbers entries).Nodup) : (groupNumbers others).Nodup := by
  have hnumbers : ∀ entries : List (String × Rule), groupNumbers entries =
      (entries.map (·.1)).filterMap fun key => Text.number? key.toList := by
    intro entries
    rw [List.filterMap_map]
    rfl
  rw [hnumbers] at hnodup ⊢
  exact (h.map_fst.filterMap _).nodup_iff.mpr hnodup

mutual

theorem Rule.Reorders.keyed (rule other : Rule) (h : rule.Reorders other) (hkeyed : rule.Keyed) :
    other.Keyed := by
  obtain ⟨name, contentName, matching, opening, closing, continuing, reference, captures,
    openingCaptures, closingCaptures, continuingCaptures, patterns, repository, closingLast⟩ := rule
  obtain ⟨_, _, _, _, _, _, _, captures', openingCaptures', closingCaptures', continuingCaptures',
    patterns', repository', _⟩ := other
  obtain ⟨-, hcaptures, hopening, hclosing, hcontinuing, hpatterns, hrepository⟩ := h
  obtain ⟨hnames, hentriesKeyed, hnumbers, hcapturesKeyed, hopeningNumbers, hopeningKeyed,
    hclosingNumbers, hclosingKeyed, hcontinuingNumbers, hcontinuingKeyed, hpatternsKeyed⟩ := hkeyed
  exact ⟨(MapReorders.map_fst hrepository).nodup_iff.mpr hnames,
    let ⟨moved, hperm, h⟩ := hrepository
    (EntriesReorder.keyed repository moved h hentriesKeyed).of_perm hperm,
    nodup_groupNumbers hcaptures hnumbers,
    let ⟨moved, hperm, h⟩ := hcaptures
    (EntriesReorder.keyed captures moved h hcapturesKeyed).of_perm hperm,
    nodup_groupNumbers hopening hopeningNumbers,
    let ⟨moved, hperm, h⟩ := hopening
    (EntriesReorder.keyed openingCaptures moved h hopeningKeyed).of_perm hperm,
    nodup_groupNumbers hclosing hclosingNumbers,
    let ⟨moved, hperm, h⟩ := hclosing
    (EntriesReorder.keyed closingCaptures moved h hclosingKeyed).of_perm hperm,
    nodup_groupNumbers hcontinuing hcontinuingNumbers,
    let ⟨moved, hperm, h⟩ := hcontinuing
    (EntriesReorder.keyed continuingCaptures moved h hcontinuingKeyed).of_perm hperm,
    RulesReorder.keyed patterns patterns' hpatterns hpatternsKeyed⟩
termination_by structural rule

theorem EntriesReorder.keyed (entries moved : List (String × Rule))
    (h : EntriesReorder entries moved) (hkeyed : EntriesKeyed entries) : EntriesKeyed moved := by
  match entries with
  | [] =>
    obtain rfl : moved = [] := h
    exact hkeyed
  | (key, rule) :: rest =>
    obtain ⟨other, others, rfl, hfirst, hrest⟩ := h
    exact ⟨Rule.Reorders.keyed rule other hfirst hkeyed.1,
      EntriesReorder.keyed rest others hrest hkeyed.2⟩
termination_by structural entries

theorem RulesReorder.keyed (rules others : List Rule) (h : RulesReorder rules others)
    (hkeyed : RulesKeyed rules) : RulesKeyed others := by
  match rules with
  | [] =>
    obtain rfl : others = [] := h
    exact hkeyed
  | rule :: rest =>
    obtain ⟨other, others, rfl, hfirst, hrest⟩ := h
    exact ⟨Rule.Reorders.keyed rule other hfirst hkeyed.1,
      RulesReorder.keyed rest others hrest hkeyed.2⟩
termination_by structural rules

end

theorem Rule.Reorders.reference_eq {written other : Rule} (h : written.Reorders other) :
    (if other.matching.isNone ∧ other.opening.isNone ∧ other.patterns.isEmpty
      then other.reference else none) =
    if written.matching.isNone ∧ written.opening.isNone ∧ written.patterns.isEmpty
      then written.reference else none := by
  obtain ⟨name, contentName, matching, opening, closing, continuing, reference, captures,
    openingCaptures, closingCaptures, continuingCaptures, patterns, repository, closingLast⟩ :=
    written
  obtain ⟨_, _, _, _, _, _, _, captures', openingCaptures', closingCaptures', continuingCaptures',
    patterns', repository', _⟩ := other
  obtain ⟨hscalars, -, -, -, -, hpatterns, -⟩ := h
  cases hscalars
  rw [RulesReorder.isEmpty_eq hpatterns]

end Written

-- ---------------------------------------------------------------------------
-- Alike drafts
-- ---------------------------------------------------------------------------

namespace Draft

mutual

/-- Drafts that differ only in the order of their repositories, in which no name is used twice. -/
def Alike : Draft Unit ρ → Draft Unit ρ → Prop
  | ⟨_, role, shape, listing, repository, opening, closing, patterns⟩, other =>
    other.role = role ∧ other.shape = shape ∧ other.listing = listing ∧
    (repository.map (·.role)).Nodup ∧
    (∃ moved, other.repository.Perm moved ∧ AllAlike repository moved) ∧
    AllAlike opening other.opening ∧ AllAlike closing other.closing ∧
    AllAlike patterns other.patterns

def AllAlike : List (Draft Unit ρ) → List (Draft Unit ρ) → Prop
  | [], others => others = []
  | draft :: rest, others =>
    ∃ other others', others = other :: others' ∧ draft.Alike other ∧ AllAlike rest others'

end

theorem allAlike_iff {drafts others : List (Draft Unit ρ)} :
    AllAlike drafts others ↔ List.Forall₂ Alike drafts others := by
  induction drafts generalizing others with
  | nil => simp [AllAlike, List.forall₂_nil_left_iff]
  | cons draft rest ih =>
    simp only [AllAlike, ih, List.forall₂_cons_left_iff]
    constructor
    · rintro ⟨other, others, rfl, hfirst, hrest⟩
      exact ⟨other, others, hfirst, hrest, rfl⟩
    · rintro ⟨other, others, hfirst, hrest, rfl⟩
      exact ⟨other, others, rfl, hfirst, hrest⟩

end Draft

-- ---------------------------------------------------------------------------
-- Computations that follow one another
-- ---------------------------------------------------------------------------

/-- Where the first computation succeeds, so does the second, with a related result. -/
def Follows (R : α → β → Prop) (x : Except ε α) (y : Except ε β) : Prop :=
  ∀ a, x = .ok a → ∃ b, y = .ok b ∧ R a b

namespace Follows

theorem ok {R : α → β → Prop} (h : R a b) : Follows R (.ok a : Except ε α) (.ok b) := by
  rintro _ ⟨⟩
  exact ⟨b, rfl, h⟩

theorem refl (x : Except ε α) : Follows (· = ·) x x := fun a h => ⟨a, h, rfl⟩

theorem bind {R : α → β → Prop} {S : γ → δ → Prop} {x : Except ε α} {y : Except ε β}
    {f : α → Except ε γ} {g : β → Except ε δ} (h : Follows R x y)
    (hnext : ∀ a b, R a b → Follows S (f a) (g b)) : Follows S (x >>= f) (y >>= g) := by
  intro c hc
  obtain ⟨a, ha, hc⟩ := bind_ok.mp hc
  obtain ⟨b, rfl, hab⟩ := h a ha
  exact hnext a b hab c hc

theorem mapM {R : α → β → Prop} {f : γ → Except ε α} {g : δ → Except ε β} {xs : List γ}
    {ys : List δ} (h : List.Forall₂ (fun x y => Follows R (f x) (g y)) xs ys) :
    Follows (List.Forall₂ R) (xs.mapM f) (ys.mapM g) := by
  induction h with
  | nil => exact .ok .nil
  | cons hfirst _ ih =>
    simp only [List.mapM_cons]
    refine .bind hfirst fun a b hab => ?_
    exact .bind ih fun as bs habs => .ok (.cons hab habs)

end Follows

-- ---------------------------------------------------------------------------
-- Captures
-- ---------------------------------------------------------------------------

namespace Draft

/-- Rules for the same group, the second of which follows the first. -/
def CaptureFollows (capture other : Nat × Except (Halt CompileError) (Draft Unit ρ)) : Prop :=
  other.1 = capture.1 ∧ Follows Alike capture.2 other.2

/-- Sorting by the numbers of the groups keeps related captures together. -/
theorem exists_sorted_pairs
    {captures others : List (Nat × Except (Halt CompileError) (Draft Unit ρ))}
    (h : List.Forall₂ CaptureFollows captures others) :
    ∃ pairs : List (_ × _), captures.mergeSort (fun a b => a.1 ≤ b.1) = pairs.map (·.1) ∧
      others.mergeSort (fun a b => a.1 ≤ b.1) = pairs.map (·.2) ∧
      ∀ pair ∈ pairs, CaptureFollows pair.1 pair.2 := by
  obtain ⟨hlength, hfollows⟩ := List.forall₂_iff_zip.mp h
  have hmem : ∀ pair ∈ captures.zip others, CaptureFollows pair.1 pair.2 := fun _ => hfollows
  refine ⟨(captures.zip others).mergeSort fun a b => a.1.1 ≤ b.1.1, ?_, ?_, ?_⟩
  · have hmap := List.map_mergeSort (l := captures.zip others) (f := Prod.fst)
      (r := fun a b => a.1.1 ≤ b.1.1) (s := fun a b => a.1 ≤ b.1) fun _ _ _ _ => rfl
    rw [hmap, List.map_fst_zip (Nat.le_of_eq hlength)]
  · have hmap := List.map_mergeSort (l := captures.zip others) (f := Prod.snd)
      (r := fun a b => a.1.1 ≤ b.1.1) (s := fun a b => a.1 ≤ b.1) fun a ha b hb => by
        rw [(hmem a ha).1, (hmem b hb).1]
    rw [hmap, List.map_snd_zip (Nat.le_of_eq hlength.symm)]
  · exact fun pair hpair => hmem pair (List.mem_mergeSort.mp hpair)

theorem sorted_follows {captures others : List (Nat × Except (Halt CompileError) (Draft Unit ρ))}
    (h : List.Forall₂ CaptureFollows captures others) :
    Follows AllAlike (sorted captures) (sorted others) := by
  obtain ⟨pairs, hcaptures, hothers, hpairs⟩ := exists_sorted_pairs h
  simp only [sorted, hcaptures, hothers, List.getLast?_map]
  cases hlast : pairs.getLast? with
  | none => exact .ok rfl
  | some last =>
    have hnumber := (hpairs last (List.mem_of_getLast? hlast)).1
    simp only [Option.map_some, hnumber]
    split
    · intro drafts hdrafts
      have hfollows : List.Forall₂ CaptureFollows (pairs.map (·.1)) (pairs.map (·.2)) := by
        rwa [List.forall₂_map_left_iff, List.forall₂_map_right_iff, List.forall₂_same]
      obtain ⟨others, hothers, halike⟩ :=
        Follows.mapM (hfollows.imp fun _ _ h => h.2) drafts hdrafts
      exact ⟨others, hothers, allAlike_iff.mpr halike⟩
    · intro drafts hdrafts
      cases hdrafts

/-- Where no two of them have the same number, captures have one order. -/
theorem sorted_eq_of_perm {captures others : List (Nat × Except (Halt CompileError) (Draft Unit ρ))}
    (h : captures.Perm others) (hnodup : (captures.map (·.1)).Nodup) :
    sorted captures = sorted others := by
  have hsorted : ∀ captures : List (Nat × Except (Halt CompileError) (Draft Unit ρ)),
      (captures.mergeSort fun a b => a.1 ≤ b.1).Pairwise fun a b => decide (a.1 ≤ b.1) := by
    refine List.pairwise_mergeSort (fun _ _ _ hab hbc => ?_) fun _ _ => ?_
    · simp only [decide_eq_true_eq] at hab hbc ⊢
      exact Nat.le_trans hab hbc
    · simp only [Bool.or_eq_true, decide_eq_true_eq]
      exact Nat.le_total ..
  have horder : captures.mergeSort (fun a b => a.1 ≤ b.1) =
      others.mergeSort fun a b => a.1 ≤ b.1 := by
    refine List.Perm.eq_of_pairwise (fun a b ha hb hab hba => ?_) (hsorted captures)
      (hsorted others) (((List.mergeSort_perm ..).trans h).trans (List.mergeSort_perm ..).symm)
    have ha := List.mem_mergeSort.mp ha
    have hb := h.mem_iff.mpr (List.mem_mergeSort.mp hb)
    refine List.inj_on_of_nodup_map hnodup ha hb ?_
    simp only [decide_eq_true_eq] at hab hba
    exact Nat.le_antisymm hab hba
  simp only [sorted, horder]

theorem ofCaptures_eq_filterMap (engine : Engine ρ) (entries : List (String × Written.Rule)) :
    ofCaptures engine entries = entries.filterMap fun entry =>
      (Text.number? entry.1.toList).map fun number =>
        (number, ofRule engine (.capture number) entry.2) := by
  induction entries with
  | nil => rfl
  | cons entry rest ih =>
    obtain ⟨key, written⟩ := entry
    simp only [ofCaptures, List.filterMap_cons, ih]
    cases Text.number? key.toList <;> rfl

theorem map_fst_ofCaptures (engine : Engine ρ) (entries : List (String × Written.Rule)) :
    (ofCaptures engine entries).map (·.1) = Written.groupNumbers entries := by
  rw [ofCaptures_eq_filterMap, List.map_filterMap]
  unfold Written.groupNumbers
  congr
  funext entry
  cases Text.number? entry.1.toList <;> rfl

theorem ofEntries_perm (engine : Engine ρ) {entries others : List (String × Written.Rule)}
    (h : entries.Perm others) :
    Follows List.Perm (ofEntries engine entries) (ofEntries engine others) := by
  induction h with
  | nil => exact .ok .nil
  | cons entry _ ih =>
    refine .bind (.refl _) ?_
    rintro draft _ rfl
    exact .bind ih fun drafts others hperm => .ok (hperm.cons draft)
  | swap entry entry' rest =>
    intro drafts hdrafts
    obtain ⟨draft', hdraft', hdrafts⟩ := bind_ok.mp hdrafts
    obtain ⟨_, hdrafts, hresult⟩ := bind_ok.mp hdrafts
    obtain ⟨draft, hdraft, hdrafts⟩ := bind_ok.mp hdrafts
    obtain ⟨rest', hrest, hresult'⟩ := bind_ok.mp hdrafts
    cases hresult'
    cases hresult
    refine ⟨draft :: draft' :: rest', ?_, .swap ..⟩
    simp only [ofEntries, hdraft, hdraft', hrest, ok_bind]
    rfl
  | trans _ _ ih ih' =>
    intro drafts hdrafts
    obtain ⟨middle, hmiddle, hperm⟩ := ih drafts hdrafts
    obtain ⟨others, hothers, hperm'⟩ := ih' middle hmiddle
    exact ⟨others, hothers, hperm.trans hperm'⟩

-- ---------------------------------------------------------------------------
-- Reordered documents have alike drafts
-- ---------------------------------------------------------------------------

open Written (EntriesReorder RulesReorder)

theorem repository_follows {engine : Engine ρ} {entries moved others : List (String × Written.Rule)}
    (hnodup : (entries.map (·.1)).Nodup) (hperm : others.Perm moved)
    (h : Follows AllAlike (ofEntries engine entries) (ofEntries engine moved)) :
    Follows (fun drafts others => (drafts.map (·.role)).Nodup ∧
        ∃ moved, others.Perm moved ∧ AllAlike drafts moved)
      (ofEntries engine entries) (ofEntries engine others) := by
  intro drafts hdrafts
  obtain ⟨drafts', hmoved, halike⟩ := h drafts hdrafts
  obtain ⟨others, hothers, hperm⟩ := ofEntries_perm engine hperm.symm drafts' hmoved
  have hroles : drafts.map (·.role) = (entries.map (·.1)).map .entry := by
    rw [ofEntries_role hdrafts, List.map_map]
    rfl
  refine ⟨others, hothers, ?_, drafts', hperm.symm, halike⟩
  rw [hroles]
  exact hnodup.map fun _ _ h => Role.entry.inj h

theorem captures_follow {engine : Engine ρ} {captures moved others : List (String × Written.Rule)}
    (hnodup : (Written.groupNumbers captures).Nodup) (hperm : others.Perm moved)
    (h : List.Forall₂ CaptureFollows (ofCaptures engine captures) (ofCaptures engine moved)) :
    Follows AllAlike (sorted (ofCaptures engine captures)) (sorted (ofCaptures engine others)) := by
  have hnumbers : (ofCaptures engine moved).map (·.1) = (ofCaptures engine captures).map (·.1) :=
    List.forall₂_eq_eq_eq ▸ (List.forall₂_map_left_iff.mpr
      (List.forall₂_map_right_iff.mpr (h.flip.imp fun _ _ h => h.1)))
  have hmoved : (ofCaptures engine moved).Perm (ofCaptures engine others) := by
    simp only [ofCaptures_eq_filterMap]
    exact hperm.symm.filterMap _
  rw [← sorted_eq_of_perm hmoved (by rwa [hnumbers, map_fst_ofCaptures])]
  exact sorted_follows h

theorem chosen_follow
    {shared shared' captures captures' : List (Nat × Except (Halt CompileError) (Draft Unit ρ))}
    {own own' : List (String × Written.Rule)} (hempty : own'.isEmpty = own.isEmpty)
    (hshared : Follows AllAlike (sorted shared) (sorted shared'))
    (hown : Follows AllAlike (sorted captures) (sorted captures')) :
    Follows AllAlike (sorted (if own.isEmpty then shared else captures))
      (sorted (if own'.isEmpty then shared' else captures')) := by
  rw [hempty]
  split
  · exact hshared
  · exact hown

theorem opened_follows {engine : Engine ρ} {role : Role} {source pattern : String}
    (shape : ρ → EndPattern ρ → Shape ρ) {entries entries' : List (Draft Unit ρ)}
    (hroles : (entries.map (·.role)).Nodup)
    (hentries : ∃ moved, entries'.Perm moved ∧ AllAlike entries moved)
    {first first' second second' : Except (Halt CompileError) (List (Draft Unit ρ))}
    (hfirst : Follows AllAlike first first') (hsecond : Follows AllAlike second second')
    {inner inner' : Except (Halt CompileError) (List (Option String) × List (Draft Unit ρ))}
    (hinner : Follows (fun rules others => others.1 = rules.1 ∧ AllAlike rules.2 others.2)
      inner inner') :
    Follows Alike
      (do
        let opening ← regex engine source
        let ending ← endPattern engine pattern
        let first ← first
        let second ← second
        let (listing, rules) ← inner
        return ⟨(), role, shape opening ending, listing, entries, first, second, rules⟩)
      (do
        let opening ← regex engine source
        let ending ← endPattern engine pattern
        let first ← first'
        let second ← second'
        let (listing, rules) ← inner'
        return ⟨(), role, shape opening ending, listing, entries', first, second, rules⟩) := by
  refine .bind (.refl _) ?_
  rintro opening _ rfl
  refine .bind (.refl _) ?_
  rintro ending _ rfl
  refine .bind hfirst fun first first' hfirst => ?_
  refine .bind hsecond fun second second' hsecond => ?_
  refine .bind hinner ?_
  rintro ⟨listing, rules⟩ ⟨_, rules'⟩ ⟨rfl, hrules⟩
  exact .ok ⟨rfl, rfl, rfl, hroles, hentries, hfirst, hsecond, hrules⟩

-- The induction is on the document. A map is followed to its entries as they have been moved, and
-- from there to the other map.
mutual

theorem ofRule_follows (engine : Engine ρ) (role : Role) (written other : Written.Rule)
    (hkeyed : written.Keyed) (h : written.Reorders other) :
    Follows Alike (ofRule engine role written) (ofRule engine role other) := by
  obtain ⟨name, contentName, matching, opening, closing, continuing, reference, captures,
    openingCaptures, closingCaptures, continuingCaptures, patterns, repository, closingLast⟩ :=
    written
  obtain ⟨_, _, _, _, _, _, _, captures', openingCaptures', closingCaptures', continuingCaptures',
    patterns', repository', _⟩ := other
  obtain ⟨hnodup, hentriesKeyed, hsharedNodup, hsharedKeyed, hopeningNodup, hopeningKeyed,
    hclosingNodup, hclosingKeyed, hcontinuingNodup, hcontinuingKeyed, hpatternsKeyed⟩ := hkeyed
  obtain ⟨hscalars, hshared, hopening, hclosing, hcontinuing, hpatterns, hrepository⟩ := h
  cases hscalars
  have hopeningEmpty := Written.MapReorders.isEmpty_eq hopening
  have hclosingEmpty := Written.MapReorders.isEmpty_eq hclosing
  have hcontinuingEmpty := Written.MapReorders.isEmpty_eq hcontinuing
  obtain ⟨moved, hperm, hshared⟩ := hshared
  have hshared := captures_follow hsharedNodup hperm
    (ofCaptures_follow engine captures moved hsharedKeyed hshared)
  obtain ⟨moved, hperm, hopening⟩ := hopening
  have hopening := chosen_follow hopeningEmpty hshared (captures_follow hopeningNodup hperm
    (ofCaptures_follow engine openingCaptures moved hopeningKeyed hopening))
  obtain ⟨moved, hperm, hclosing⟩ := hclosing
  have hclosing := chosen_follow hclosingEmpty hshared (captures_follow hclosingNodup hperm
    (ofCaptures_follow engine closingCaptures moved hclosingKeyed hclosing))
  obtain ⟨moved, hperm, hcontinuing⟩ := hcontinuing
  have hcontinuing := chosen_follow hcontinuingEmpty hshared (captures_follow hcontinuingNodup hperm
    (ofCaptures_follow engine continuingCaptures moved hcontinuingKeyed hcontinuing))
  have hinner := ofPatterns_follows engine patterns patterns' hpatternsKeyed hpatterns
  obtain ⟨moved, hperm, hrepository⟩ := hrepository
  have hrepository := repository_follows hnodup hperm
    (ofEntries_follows engine repository moved hentriesKeyed hrepository)
  simp only [ofRule]
  refine .bind hrepository fun entries entries' ⟨hroles, hentries⟩ => ?_
  cases matching with
  | some source =>
    refine .bind (.refl _) ?_
    rintro regex _ rfl
    refine .bind hshared fun first first' hfirst => ?_
    exact .ok ⟨rfl, rfl, rfl, hroles, hentries, hfirst, rfl, rfl⟩
  | none =>
  cases opening with
  | some source =>
    cases continuing with
    | some continuing =>
      exact opened_follows (fun opening condition => .beginWhile name contentName opening condition)
        hroles hentries hopening hcontinuing hinner
    | none =>
      exact opened_follows (fun opening closing =>
        .beginEnd name contentName opening closing closingLast) hroles hentries hopening hclosing
        hinner
  | none =>
    refine .bind hinner ?_
    rintro ⟨listing, rules⟩ ⟨_, rules'⟩ ⟨rfl, hrules⟩
    exact .ok ⟨rfl, rfl, rfl, hroles, hentries, rfl, rfl, hrules⟩
termination_by structural written

theorem ofEntries_follows (engine : Engine ρ) (entries moved : List (String × Written.Rule))
    (hkeyed : Written.EntriesKeyed entries) (h : EntriesReorder entries moved) :
    Follows AllAlike (ofEntries engine entries) (ofEntries engine moved) := by
  match entries with
  | [] =>
    obtain rfl : moved = [] := h
    exact .ok rfl
  | (key, written) :: rest =>
    obtain ⟨other, others, rfl, hfirst, hrest⟩ := h
    refine .bind (ofRule_follows engine _ written other hkeyed.1 hfirst)
      fun draft draft' halike => ?_
    refine .bind (ofEntries_follows engine rest others hkeyed.2 hrest) fun drafts drafts' hall => ?_
    exact .ok ⟨draft', drafts', rfl, halike, hall⟩
termination_by structural entries

theorem ofPatterns_follows (engine : Engine ρ) (rules others : List Written.Rule)
    (hkeyed : Written.RulesKeyed rules) (h : RulesReorder rules others) :
    Follows (fun drafts others => others.1 = drafts.1 ∧ AllAlike drafts.2 others.2)
      (ofPatterns engine rules) (ofPatterns engine others) := by
  match rules with
  | [] =>
    obtain rfl : others = [] := h
    exact .ok ⟨rfl, rfl⟩
  | written :: rest =>
    obtain ⟨other, others, rfl, hfirst, hrest⟩ := h
    have hrest := ofPatterns_follows engine rest others hkeyed.2 hrest
    simp only [ofPatterns, hfirst.reference_eq]
    split
    · refine .bind hrest ?_
      rintro ⟨listing, drafts⟩ ⟨_, drafts'⟩ ⟨rfl, hall⟩
      exact .ok ⟨rfl, hall⟩
    · refine .bind (ofRule_follows engine _ written other hkeyed.1 hfirst)
        fun draft draft' halike => ?_
      refine .bind hrest ?_
      rintro ⟨listing, drafts⟩ ⟨_, drafts'⟩ ⟨rfl, hall⟩
      exact .ok ⟨rfl, draft', drafts', rfl, halike, hall⟩
termination_by structural rules

theorem ofCaptures_follow (engine : Engine ρ) (captures moved : List (String × Written.Rule))
    (hkeyed : Written.EntriesKeyed captures) (h : EntriesReorder captures moved) :
    List.Forall₂ CaptureFollows (ofCaptures engine captures) (ofCaptures engine moved) := by
  match captures with
  | [] =>
    obtain rfl : moved = [] := h
    exact .nil
  | (key, written) :: rest =>
    obtain ⟨other, others, rfl, hfirst, hrest⟩ := h
    have hrest := ofCaptures_follow engine rest others hkeyed.2 hrest
    simp only [ofCaptures]
    cases Text.number? key.toList with
    | none => exact hrest
    | some number =>
      exact .cons ⟨rfl, ofRule_follows engine _ written other hkeyed.1 hfirst⟩ hrest
termination_by structural captures

end

end Draft

end LineScopes
