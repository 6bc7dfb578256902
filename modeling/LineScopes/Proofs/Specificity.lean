import LineScopes.Theme.Basic
import Mathlib.Data.List.Forall2
import Mathlib.Data.List.Infix
import Mathlib.Data.Prod.Lex

/-!
# The rule that counts for an attribute

A selector matches at a scope of the path if its last element stands for that
scope and the others for scopes further out, in their order. Of all the ways
in which selectors of rules that set an attribute match, the greatest gives
its value: by the depth of the scope, the segments of the last element, the
number of the others, and the place of the rule. The theme tries one way for
each selector only, and comes to the same.
-/

namespace LineScopes

-- ---------------------------------------------------------------------------
-- Elements
-- ---------------------------------------------------------------------------

namespace Text

theorem splitAtChar_ne_nil (separator : Char) (chars : List Char) :
    splitAtChar separator chars ≠ [] := by
  cases chars with
  | nil => exact List.cons_ne_nil _ _
  | cons c rest =>
    rw [splitAtChar]
    split
    · exact List.cons_ne_nil _ _
    · split <;> exact List.cons_ne_nil _ _

theorem splitAtChar_cons (separator c : Char) (rest : List Char) :
    ∃ piece pieces, splitAtChar separator rest = piece :: pieces ∧
      splitAtChar separator (c :: rest) =
        if c = separator then [] :: piece :: pieces else (c :: piece) :: pieces := by
  obtain ⟨piece, pieces, h⟩ := List.exists_cons_of_ne_nil (splitAtChar_ne_nil separator rest)
  refine ⟨piece, pieces, h, ?_⟩
  rw [splitAtChar, h]

/-- The pieces of one text are the first pieces of another one if the text is all of it or what
stands before a separator. -/
theorem splitAtChar_prefix_iff (separator : Char) (chars other : List Char) :
    splitAtChar separator chars <+: splitAtChar separator other ↔
      chars <+: other ∧ (other.drop chars.length).head?.all (· = separator) := by
  induction chars generalizing other with
  | nil =>
    cases other with
    | nil => simp [splitAtChar]
    | cons d other =>
      obtain ⟨piece, pieces, -, hother⟩ := splitAtChar_cons separator d other
      rw [hother]
      by_cases hd : d = separator <;> simp [splitAtChar, hd]
  | cons c chars ih =>
    obtain ⟨piece, pieces, hpieces, hchars⟩ := splitAtChar_cons separator c chars
    cases other with
    | nil =>
      rw [hchars]
      by_cases hc : c = separator <;> simp [splitAtChar, hc]
    | cons d other =>
      obtain ⟨piece', pieces', hpieces', hother⟩ := splitAtChar_cons separator d other
      have ih := ih other
      rw [hpieces, hpieces', List.cons_prefix_cons] at ih
      rw [hchars, hother, List.cons_prefix_cons, List.length_cons, List.drop_succ_cons]
      by_cases hc : c = separator <;> by_cases hd : d = separator
      · simp [hc, hd, List.cons_prefix_cons, ih]
      · simp [hc, hd, Ne.symm hd]
      · simp [hc, hd]
      · simp only [hc, hd, if_false, List.cons_prefix_cons, List.cons.injEq, and_assoc, ih]

end Text

namespace Selector

/-- The segments of the element are the first segments of the scope. -/
def Covers (element scope : String) : Prop :=
  Text.split '.' element <+: Text.split '.' scope

theorem covers_iff {element scope : String} : covers element scope ↔ Covers element scope := by
  rw [Covers, Text.split, Text.split,
    List.prefix_map_iff_of_injective fun _ _ => String.ofList_injective,
    Text.splitAtChar_prefix_iff, covers, Bool.and_eq_true, List.isPrefixOf_iff_prefix,
    String.length_toList]

theorem findsAll_iff {elements path : List String} :
    findsAll elements path ↔
      ∃ scopes : List String, scopes.Sublist path ∧ List.Forall₂ Covers elements scopes := by
  -- The first scope that will do for an element is as good as any later one: what is left of the
  -- path after it is the longest.
  induction elements, path using findsAll.induct with
  | case1 path =>
    rw [findsAll]
    exact iff_of_true rfl ⟨[], List.nil_sublist _, .nil⟩
  | case2 element elements =>
    rw [findsAll]
    refine iff_of_false Bool.false_ne_true ?_
    rintro ⟨scopes, hscopes, helements⟩
    rw [List.sublist_nil.mp hscopes] at helements
    cases helements
  | case3 element elements scope path hcovers ih =>
    rw [findsAll, if_pos hcovers, ih]
    constructor
    · rintro ⟨scopes, hscopes, helements⟩
      exact ⟨scope :: scopes, hscopes.cons_cons scope, .cons (covers_iff.mp hcovers) helements⟩
    · rintro ⟨scopes, hscopes, helements⟩
      obtain ⟨found, others, -, hothers, rfl⟩ := List.forall₂_cons_left_iff.mp helements
      exact ⟨others, hscopes.tail, hothers⟩
  | case4 element elements scope path hcovers ih =>
    rw [findsAll, if_neg hcovers, ih]
    constructor
    · rintro ⟨scopes, hscopes, helements⟩
      exact ⟨scopes, hscopes.cons scope, helements⟩
    · rintro ⟨_, hscopes, helements⟩
      refine ⟨_, ?_, helements⟩
      cases hscopes with
      | cons _ hscopes => exact hscopes
      | cons_cons _ _ =>
        cases helements with
        | cons hfound _ => exact absurd (covers_iff.mpr hfound) hcovers

-- ---------------------------------------------------------------------------
-- Matches
-- ---------------------------------------------------------------------------

/-- The selector matches at a scope of the path, its other elements further out. -/
structure MatchesAt (selector : Selector) (path : List String)
    (positions : List (Fin path.length)) (depth : Fin path.length) : Prop where
  last : Covers selector.last path[depth]
  ancestors : List.Forall₂ (fun element position => Covers element path[position])
    selector.ancestors positions
  increasing : (positions ++ [depth]).Pairwise (· < ·)

/-- The selector matches at `scope`, with its other elements further out; `outer` is the path
there, the innermost first. -/
def Fits (selector : Selector) (scope : String) (outer : List String) : Prop :=
  covers selector.last scope ∧ findsAll selector.ancestors.reverse outer

theorem fits_iff {selector : Selector} {scope : String} {outer : List String} :
    selector.Fits scope outer.reverse ↔ Covers selector.last scope ∧
      ∃ scopes : List String, scopes.Sublist outer ∧
        List.Forall₂ Covers selector.ancestors scopes := by
  rw [Fits, covers_iff, findsAll_iff]
  refine and_congr_right fun _ => ⟨?_, ?_⟩
  · rintro ⟨scopes, hscopes, hcovers⟩
    refine ⟨scopes.reverse, ?_, ?_⟩
    · rw [← List.reverse_sublist, List.reverse_reverse]
      exact hscopes
    · rw [← List.forall₂_reverse_iff, List.reverse_reverse]
      exact hcovers
  · rintro ⟨scopes, hscopes, hcovers⟩
    exact ⟨scopes.reverse, hscopes.reverse, List.forall₂_reverse_iff.mpr hcovers⟩

theorem map_getElem_sublist_take {path : List String} {depth : Fin path.length}
    {positions : List (Fin path.length)} (hincreasing : positions.Pairwise (· < ·))
    (hbefore : ∀ position ∈ positions, position < depth) :
    (positions.map (path[·])).Sublist (path.take depth) := by
  have hlt (position : Fin path.length) (h : position < depth) :
      position < (path.take depth).length := by
    rw [List.length_take_of_le depth.isLt.le]
    exact h
  -- the same positions, as places of what stands before the depth
  have hplaces : (positions.pmap (fun (position : Fin path.length) h =>
      (⟨position, hlt position h⟩ : Fin (path.take depth).length)) hbefore).Pairwise (· < ·) :=
    (List.pairwise_pmap _).mpr (hincreasing.imp fun h _ _ => h)
  have hsublist := List.map_getElem_sublist hplaces
  simp only [List.map_pmap, Fin.getElem_fin, List.getElem_take] at hsublist
  rwa [← List.pmap_eq_map hbefore]

theorem positions_iff {path : List String} {depth : Fin path.length} {elements : List String} :
    (∃ positions : List (Fin path.length),
      List.Forall₂ (fun element position => Covers element path[position]) elements positions ∧
        (positions ++ [depth]).Pairwise (· < ·)) ↔
      ∃ scopes : List String, scopes.Sublist (path.take depth) ∧
        List.Forall₂ Covers elements scopes := by
  constructor
  · rintro ⟨positions, hcovers, hincreasing⟩
    obtain ⟨hpositions, -, hbefore⟩ := List.pairwise_append.mp hincreasing
    refine ⟨positions.map (path[·]), ?_, List.forall₂_map_right_iff.mpr hcovers⟩
    exact map_getElem_sublist_take hpositions fun position h =>
      hbefore position h depth (List.mem_singleton_self depth)
  · rintro ⟨scopes, hscopes, hcovers⟩
    obtain ⟨positions, rfl, hpositions⟩ := List.sublist_eq_map_getElem hscopes
    refine ⟨positions.map (Fin.castLE (List.length_take_le' ..)), ?_, ?_⟩
    · rw [List.forall₂_map_right_iff] at hcovers ⊢
      simpa using hcovers
    · rw [List.pairwise_append, List.pairwise_map]
      refine ⟨hpositions, List.pairwise_singleton _ _, ?_⟩
      simp only [List.mem_map, List.mem_singleton]
      rintro _ ⟨position, -, rfl⟩ _ rfl
      exact position.isLt.trans_le (List.length_take_le ..)

theorem exists_matchesAt_iff {selector : Selector} {path : List String}
    {depth : Fin path.length} :
    (∃ positions, selector.MatchesAt path positions depth) ↔
      selector.Fits path[depth] (path.take depth).reverse := by
  rw [fits_iff, ← positions_iff]
  constructor
  · rintro ⟨positions, h⟩
    exact ⟨h.last, positions, h.ancestors, h.increasing⟩
  · rintro ⟨hlast, positions, hancestors, hincreasing⟩
    exact ⟨positions, hlast, hancestors, hincreasing⟩

theorem suffix_reverse_iff {scope : String} {outer path : List String} :
    scope :: outer <:+ path.reverse ↔
      ∃ depth : Fin path.length, scope = path[depth] ∧ outer = (path.take depth).reverse := by
  rw [← List.reverse_prefix, List.reverse_reverse, List.reverse_cons]
  constructor
  · rintro ⟨inner, rfl⟩
    exact ⟨⟨outer.length, by simp⟩, by simp⟩
  · rintro ⟨depth, rfl, rfl⟩
    refine ⟨path.drop (depth + 1), ?_⟩
    simp

-- ---------------------------------------------------------------------------
-- The rank of a selector
-- ---------------------------------------------------------------------------

/-- The rank is none if the selector fits nowhere, and else that of the innermost scope at which it
fits. -/
inductive Ranks (selector : Selector) (path : List String) : Option Rank → Prop
  | none (nowhere : ∀ scope outer, scope :: outer <:+ path → ¬ selector.Fits scope outer) :
    Ranks selector path none
  | some {scope : String} {outer : List String} (there : scope :: outer <:+ path)
    (fits : selector.Fits scope outer)
    (innermost : ∀ scope' outer', scope' :: outer' <:+ path → selector.Fits scope' outer' →
      outer'.length ≤ outer.length) :
    Ranks selector path (some ⟨outer.length, segments selector.last, selector.ancestors.length⟩)

theorem rankIn_ranks (selector : Selector) (path : List String) :
    selector.Ranks path (selector.rankIn path) := by
  induction path with
  | nil =>
    refine .none fun scope outer h => ?_
    cases List.suffix_nil.mp h
  | cons scope outer ih =>
    rw [rankIn]
    split
    case isTrue hfits =>
      refine .some (List.suffix_refl _) hfits fun scope' outer' h _ => ?_
      have h := h.length_le
      rwa [List.length_cons, List.length_cons, Nat.add_le_add_iff_right] at h
    case isFalse hfits =>
      -- The scope at the end does not fit, so what fits is further out.
      have hout {scope' outer'} (h : scope' :: outer' <:+ scope :: outer)
          (hfits' : selector.Fits scope' outer') : scope' :: outer' <:+ outer := by
        obtain h | h := List.suffix_cons_iff.mp h
        · cases h
          exact absurd hfits' hfits
        · exact h
      generalize selector.rankIn outer = rank at ih
      cases ih with
      | none nowhere =>
        exact .none fun scope' outer' h hfits' => nowhere _ _ (hout h hfits') hfits'
      | some there fits innermost =>
        exact .some (List.suffix_cons_iff.mpr (.inr there)) fits fun scope' outer' h hfits' =>
          innermost _ _ (hout h hfits') hfits'

theorem rank_eq_none {selector : Selector} {path : List String} (h : selector.rank path = none)
    (positions : List (Fin path.length)) (depth : Fin path.length) :
    ¬ selector.MatchesAt path positions depth := by
  intro hmatches
  have hranks := selector.rankIn_ranks path.reverse
  rw [← rank, h] at hranks
  cases hranks with
  | none nowhere =>
    exact nowhere _ _ (suffix_reverse_iff.mpr ⟨depth, rfl, rfl⟩)
      (exists_matchesAt_iff.mp ⟨positions, hmatches⟩)

theorem rank_eq_some {selector : Selector} {path : List String} {rank : Rank}
    (h : selector.rank path = some rank) :
    ∃ positions depth, selector.MatchesAt path positions depth ∧
      rank = ⟨depth, segments selector.last, selector.ancestors.length⟩ ∧
      ∀ positions' depth', selector.MatchesAt path positions' depth' → depth' ≤ depth := by
  have hranks := selector.rankIn_ranks path.reverse
  rw [← Selector.rank, h] at hranks
  cases hranks with
  | some there fits innermost =>
    obtain ⟨depth, rfl, rfl⟩ := suffix_reverse_iff.mp there
    have hdepth (depth : Fin path.length) : (path.take depth).reverse.length = depth := by
      rw [List.length_reverse, List.length_take_of_le depth.isLt.le]
    obtain ⟨positions, hmatches⟩ := exists_matchesAt_iff.mpr fits
    refine ⟨positions, depth, hmatches, by rw [hdepth], fun positions' depth' h => ?_⟩
    have hle := innermost _ _ (suffix_reverse_iff.mpr ⟨depth', rfl, rfl⟩)
      (exists_matchesAt_iff.mp ⟨positions', h⟩)
    rwa [hdepth, hdepth] at hle

end Selector

-- ---------------------------------------------------------------------------
-- The greatest
-- ---------------------------------------------------------------------------

/-- The greatest of those for which `among` holds; none if there are none. -/
inductive Greatest {α β : Type*} [LE β] (key : α → β) (among : α → Prop) : Option α → Prop
  | absent (nobody : ∀ a, ¬ among a) : Greatest key among none
  | present {a : α} (mem : among a) (le : ∀ b, among b → key b ≤ key a) :
    Greatest key among (some a)

namespace Greatest

variable {α β : Type*} [LinearOrder β] {key : α → β} {among among' : α → Prop}

theorem unique (hkey : ∀ a b, among a → among b → key a = key b → a = b) {a? b? : Option α}
    (ha : Greatest key among a?) (hb : Greatest key among b?) : a? = b? := by
  cases ha with
  | absent nobody =>
    cases hb with
    | absent _ => rfl
    | present mem _ => exact absurd mem (nobody _)
  | present mem le =>
    cases hb with
    | absent nobody => exact absurd mem (nobody _)
    | present mem' le' => rw [hkey _ _ mem mem' (le_antisymm (le' _ mem) (le _ mem'))]

theorem push {best? : Option α} (h : Greatest key among best?) {a : α}
    (hamong : ∀ b, among' b ↔ among b ∨ b = a) :
    Greatest key among'
      (some (best?.elim a fun best => if key a < key best then best else a)) := by
  cases h with
  | absent nobody =>
    refine .present ((hamong a).mpr (.inr rfl)) fun b hb => ?_
    obtain hb | rfl := (hamong b).mp hb
    · exact absurd hb (nobody b)
    · exact le_rfl
  | @present best mem le =>
    rw [Option.elim_some]
    by_cases hlt : key a < key best
    · rw [if_pos hlt]
      refine .present ((hamong best).mpr (.inl mem)) fun b hb => ?_
      obtain hb | rfl := (hamong b).mp hb
      · exact le b hb
      · exact hlt.le
    · rw [if_neg hlt]
      refine .present ((hamong a).mpr (.inr rfl)) fun b hb => ?_
      obtain hb | rfl := (hamong b).mp hb
      · exact (le b hb).trans (not_lt.mp hlt)
      · exact le_rfl

end Greatest

-- ---------------------------------------------------------------------------
-- The rank of a rule
-- ---------------------------------------------------------------------------

namespace Rank

/-- What is compared of a rank, from the most to the least. -/
def key (rank : Rank) : Nat ×ₗ Nat ×ₗ Nat :=
  toLex (rank.depth, toLex (rank.segments, rank.ancestors))

theorem isLT_iff {a b : Rank} : (compare a b).isLT ↔ a.key < b.key := by
  have hcompare : compare a b = (compare a.depth b.depth).then
      ((compare a.segments b.segments).then ((compare a.ancestors b.ancestors).then .eq)) := rfl
  rw [Ordering.isLT_iff_eq_lt, hcompare, key, key, Prod.Lex.toLex_lt_toLex,
    Prod.Lex.toLex_lt_toLex]
  simp only [Ordering.then_eq_lt, Nat.compare_eq_lt, Nat.compare_eq_eq]
  simp

end Rank

theorem ThemeRule.rank_greatest (rule : ThemeRule) (path : List String) :
    Greatest Rank.key (· ∈ rule.selectors.filterMap (·.rank path)) (rule.rank path) := by
  rw [rank]
  generalize rule.selectors.filterMap (·.rank path) = ranks
  induction ranks using List.reverseRecOn with
  | nil => exact .absent fun _ => List.not_mem_nil
  | append_singleton ranks rank ih =>
    rw [List.foldl_append, List.foldl_cons, List.foldl_nil]
    have h := ih.push fun other =>
      (List.mem_append (t := [rank])).trans (or_congr_right List.mem_singleton)
    simp only [← Rank.isLT_iff] at h
    revert h
    cases ranks.foldl _ none with
    | none => exact id
    | some best => exact id

-- ---------------------------------------------------------------------------
-- The rules of a theme
-- ---------------------------------------------------------------------------

/-- What is compared of a way to match, from the most to the least: the depth of the scope, the
segments of the last element, the number of the other elements and the place of the rule. -/
abbrev Standing := Nat ×ₗ Nat ×ₗ Nat ×ₗ Nat

def Rank.standing (rank : Rank) (index : Nat) : Standing :=
  toLex (rank.depth, toLex (rank.segments, toLex (rank.ancestors, index)))

def Selector.standing (selector : Selector) (depth index : Nat) : Standing :=
  Rank.standing ⟨depth, segments selector.last, selector.ancestors.length⟩ index

namespace Rank

theorem standing_le {rank other : Rank} {index : Nat} (h : rank.key ≤ other.key) :
    rank.standing index ≤ other.standing index := by
  rw [key, key, Prod.Lex.toLex_le_toLex, Prod.Lex.toLex_le_toLex] at h
  rw [standing, standing, Prod.Lex.toLex_le_toLex, Prod.Lex.toLex_le_toLex,
    Prod.Lex.toLex_le_toLex]
  dsimp only at h ⊢
  omega

/-- Between two rules the later one needs no more than an equal rank. -/
theorem standing_lt_iff {rank other : Rank} {index before : Nat} (h : before < index) :
    rank.standing index < other.standing before ↔ rank.key < other.key := by
  rw [key, key, standing, standing, Prod.Lex.toLex_lt_toLex, Prod.Lex.toLex_lt_toLex,
    Prod.Lex.toLex_lt_toLex, Prod.Lex.toLex_lt_toLex, Prod.Lex.toLex_lt_toLex]
  dsimp only
  omega

end Rank

namespace Theme

/-- A rule that matches the path and sets the attribute, with its place, its rank and the value. -/
inductive Bids (path : List String) (setting : StyleSettings → Option String)
    (rules : List ThemeRule) : Nat × Rank × String → Prop
  | intro {index : Nat} {rule : ThemeRule} {rank : Rank} {value : String}
    (there : rules[index]? = some rule) (ranks : rule.rank path = some rank)
    (sets : setting rule.style = some value) : Bids path setting rules (index, rank, value)

section Scan

variable {path : List String} {setting : StyleSettings → Option String}

theorem bestOf_append (rules others : List ThemeRule) (best? : Option (Rank × String)) :
    bestOf path setting (rules ++ others) best? =
      bestOf path setting others (bestOf path setting rules best?) := by
  induction rules generalizing best? with
  | nil => rfl
  | cons rule rules ih =>
    rw [List.cons_append, bestOf, bestOf]
    split
    · exact ih _
    · exact ih _

theorem bids_concat {rules : List ThemeRule} {rule : ThemeRule} {bid : Nat × Rank × String} :
    Bids path setting (rules ++ [rule]) bid ↔ Bids path setting rules bid ∨
      ∃ rank value, rule.rank path = some rank ∧ setting rule.style = some value ∧
        bid = (rules.length, rank, value) := by
  constructor
  · rintro @⟨index, found, rank, value, hfound, hrank, hvalue⟩
    obtain hindex | hindex := Nat.lt_or_ge index rules.length
    · rw [List.getElem?_append_left hindex] at hfound
      exact .inl ⟨hfound, hrank, hvalue⟩
    · rw [List.getElem?_append_right hindex, List.getElem?_singleton] at hfound
      split at hfound
      case isTrue hzero =>
        cases hfound
        obtain rfl : index = rules.length := by omega
        exact .inr ⟨rank, value, hrank, hvalue, rfl⟩
      case isFalse => cases hfound
  · rintro (⟨hfound, hrank, hvalue⟩ | ⟨rank, value, hrank, hvalue, rfl⟩)
    · obtain ⟨hindex, -⟩ := List.getElem?_eq_some_iff.mp hfound
      exact ⟨(List.getElem?_append_left hindex).trans hfound, hrank, hvalue⟩
    · exact ⟨List.getElem?_concat_length, hrank, hvalue⟩

theorem Bids.index_lt {rules : List ThemeRule} {bid : Nat × Rank × String}
    (h : Bids path setting rules bid) : bid.1 < rules.length := by
  obtain ⟨hfound, -, -⟩ := h
  exact (List.getElem?_eq_some_iff.mp hfound).1

theorem bestOf_greatest (path : List String) (setting : StyleSettings → Option String)
    (rules : List ThemeRule) :
    ∃ best?, Greatest (fun bid => bid.2.1.standing bid.1) (Bids path setting rules) best? ∧
      bestOf path setting rules none = best?.map (·.2) := by
  induction rules using List.reverseRecOn with
  | nil => exact ⟨none, .absent fun _ h => Nat.not_lt_zero _ h.index_lt, rfl⟩
  | append_singleton rules rule ih =>
    obtain ⟨best?, hgreatest, hbest⟩ := ih
    rw [bestOf_append, hbest, bestOf]
    split
    case h_1 rank value hrank hvalue =>
      have hamong (bid : Nat × Rank × String) : Bids path setting (rules ++ [rule]) bid ↔
          Bids path setting rules bid ∨ bid = (rules.length, rank, value) := by
        rw [bids_concat, hrank, hvalue]
        simp
      refine ⟨_, hgreatest.push hamong, ?_⟩
      cases hgreatest with
      | absent _ => rfl
      | @present best mem _ =>
        -- The rule stands after the best one so far.
        simp only [bestOf, Option.map_some, Option.any_some, Option.elim_some, Rank.isLT_iff,
          Rank.standing_lt_iff mem.index_lt]
        split <;> rfl
    case h_2 hnone =>
      have hamong : Bids path setting (rules ++ [rule]) = Bids path setting rules := by
        ext bid
        rw [bids_concat, or_iff_left]
        rintro ⟨rank, value, hrank, hvalue, -⟩
        exact hnone rank value hrank hvalue
      exact ⟨best?, hamong ▸ hgreatest, rfl⟩

end Scan

-- ---------------------------------------------------------------------------
-- All ways to match
-- ---------------------------------------------------------------------------

/-- A way in which a selector of a rule matches the path, by its standing, with the value that the
rule gives to the attribute. -/
inductive Competes (theme : Theme) (path : List String)
    (setting : StyleSettings → Option String) : Standing × String → Prop
  | intro {index : Fin theme.rules.length} {selector : Selector}
    {positions : List (Fin path.length)} {depth : Fin path.length} {value : String}
    (sets : setting theme.rules[index].style = some value)
    (among : selector ∈ theme.rules[index].selectors)
    (matchesAt : selector.MatchesAt path positions depth) :
    Competes theme path setting (selector.standing depth index, value)

/-- The value with the greatest standing. -/
def Decides (theme : Theme) (path : List String) (setting : StyleSettings → Option String)
    (value? : Option String) : Prop :=
  ∃ best?, Greatest Prod.fst (theme.Competes path setting) best? ∧ value? = best?.map (·.2)

section Search

variable {theme : Theme} {path : List String} {setting : StyleSettings → Option String}

theorem Bids.competes {bid : Nat × Rank × String} (h : Bids path setting theme.rules bid) :
    theme.Competes path setting (bid.2.1.standing bid.1, bid.2.2) := by
  obtain @⟨index, rule, rank, value, hrule, hrank, hvalue⟩ := h
  obtain ⟨hindex, rfl⟩ := List.getElem?_eq_some_iff.mp hrule
  have hgreatest := (theme.rules[index]).rank_greatest path
  rw [hrank] at hgreatest
  cases hgreatest with
  | present mem le =>
    obtain ⟨selector, hselector, hrank⟩ := List.mem_filterMap.mp mem
    obtain ⟨positions, depth, hmatches, rfl, -⟩ := Selector.rank_eq_some hrank
    exact @Competes.intro theme path setting ⟨index, hindex⟩ _ _ _ _ hvalue hselector hmatches

theorem Competes.le_bid {way : Standing × String} (h : theme.Competes path setting way) :
    ∃ bid, Bids path setting theme.rules bid ∧ way.1 ≤ bid.2.1.standing bid.1 := by
  obtain @⟨index, selector, positions, depth, value, hvalue, hselector, hmatches⟩ := h
  cases hselectorRank : selector.rank path with
  | none => exact absurd hmatches (Selector.rank_eq_none hselectorRank positions depth)
  | some selectorRank =>
    obtain ⟨_, deepest, -, rfl, hdeepest⟩ := Selector.rank_eq_some hselectorRank
    have hmem := (List.mem_filterMap (f := (·.rank path))).mpr ⟨selector, hselector, hselectorRank⟩
    have hgreatest := (theme.rules[index]).rank_greatest path
    cases hrank : (theme.rules[index]).rank path with
    | none =>
      rw [hrank] at hgreatest
      cases hgreatest with
      | absent nobody => exact absurd hmem (nobody _)
    | some rank =>
      rw [hrank] at hgreatest
      cases hgreatest with
      | present mem le =>
        refine ⟨(index, rank, value), ⟨List.getElem?_eq_getElem index.isLt, hrank, hvalue⟩, ?_⟩
        calc selector.standing depth index
          _ ≤ selector.standing deepest index :=
            Rank.standing_le (Prod.Lex.toLex_mono ⟨hdeepest positions depth hmatches, le_rfl⟩)
          _ ≤ rank.standing index := Rank.standing_le (le _ hmem)

theorem best?_decides : theme.Decides path setting (theme.best? path setting) := by
  obtain ⟨bid?, hgreatest, hbest⟩ := bestOf_greatest path setting theme.rules
  rw [best?, hbest]
  cases hgreatest with
  | absent nobody =>
    refine ⟨none, .absent fun way hway => ?_, rfl⟩
    obtain ⟨bid, hbid, -⟩ := hway.le_bid
    exact nobody bid hbid
  | @present best mem le =>
    refine ⟨_, .present mem.competes fun way hway => ?_, rfl⟩
    obtain ⟨bid, hbid, hle⟩ := hway.le_bid
    exact hle.trans (le bid hbid)

/-- The place of the rule is part of the standing, so one standing goes with one value. -/
theorem Competes.eq_of_standing_eq {way other : Standing × String}
    (h : theme.Competes path setting way) (hother : theme.Competes path setting other)
    (hstanding : way.1 = other.1) : way = other := by
  obtain @⟨index, _, _, _, value, hvalue, -, -⟩ := h
  obtain @⟨index', _, _, _, value', hvalue', -, -⟩ := hother
  have hindex : index.val = index'.val := by
    simp only [Selector.standing, Rank.standing, toLex_inj, Prod.mk.injEq] at hstanding
    exact hstanding.2.2.2
  obtain rfl := Fin.ext hindex
  rw [hvalue] at hvalue'
  exact Prod.ext hstanding (Option.some.inj hvalue')

theorem Decides.unique {value? other? : Option String} (h : theme.Decides path setting value?)
    (hother : theme.Decides path setting other?) : value? = other? := by
  obtain ⟨best?, hbest, rfl⟩ := h
  obtain ⟨other?, hother, rfl⟩ := hother
  rw [hbest.unique (fun _ _ => Competes.eq_of_standing_eq) hother]

end Search

/-- Each attribute of a style is decided by itself, by the greatest of all the ways in which
selectors of rules that set it match; without one the defaults give the colours, and nothing
the font style. -/
theorem resolve_eq_iff (theme : Theme) (scopePath : String) (style : ResolvedStyle) :
    theme.resolve scopePath = style ↔ ∃ foreground background,
      theme.Decides (Text.words scopePath) (·.foreground) foreground ∧
      theme.Decides (Text.words scopePath) (·.background) background ∧
      theme.Decides (Text.words scopePath) (·.fontStyle) style.fontStyle ∧
      style.foreground = foreground.getD theme.defaults.foreground ∧
      style.background = background.getD theme.defaults.background := by
  constructor
  · rintro rfl
    exact ⟨_, _, best?_decides, best?_decides, best?_decides, rfl, rfl⟩
  · rintro ⟨foreground, background, hforeground, hbackground, hfontStyle, hfore, hback⟩
    cases style
    rw [resolve, best?_decides.unique hforeground, best?_decides.unique hbackground,
      best?_decides.unique hfontStyle, ← hfore, ← hback]

end Theme

end LineScopes
