import LineScopes.Proofs.Lookups
import LineScopes.Proofs.Painting
import LineScopes.Proofs.Scanning

/-!
# Captures give scopes to what they contain

The captures of a match that have no patterns are painted from left to right,
with those that are open in a list. Where each of them lies within or after
those with lower numbers, every byte of the match has in the end the names of
just those captures that contain it, on top of the scopes of the match.
-/

namespace LineScopes

-- ---------------------------------------------------------------------------
-- Spans
-- ---------------------------------------------------------------------------

namespace Text.Span

def Contains (span : Span) (byte : Nat) : Prop := span.start ≤ byte ∧ byte < span.stop

instance (span : Span) (byte : Nat) : Decidable (span.Contains byte) := instDecidableAnd

/-- One span does not begin after another one, and that lies within it or after it. -/
def Around (outer inner : Span) : Prop :=
  outer.start ≤ inner.start ∧ (inner.stop ≤ outer.stop ∨ outer.stop ≤ inner.start)

instance (outer inner : Span) : Decidable (outer.Around inner) := instDecidableAnd

end Text.Span

-- ---------------------------------------------------------------------------
-- Marks
-- ---------------------------------------------------------------------------

/-- The names that a capture gives to the text of a span. -/
structure Mark where
  names : List String
  span : Text.Span

namespace Mark

/-- The names of the marks that contain a byte, in the order of the marks. -/
def namesAt (marks : List Mark) (byte : Nat) : List String :=
  (marks.filter (·.span.Contains byte)).flatMap names

theorem namesAt_cons (mark : Mark) (marks : List Mark) (byte : Nat) :
    namesAt (mark :: marks) byte =
      (if mark.span.Contains byte then mark.names else []) ++ namesAt marks byte := by
  unfold namesAt
  by_cases h : mark.span.Contains byte <;> simp [h]

theorem namesAt_append (marks others : List Mark) (byte : Nat) :
    namesAt (marks ++ others) byte = namesAt marks byte ++ namesAt others byte := by
  rw [namesAt, List.filter_append, List.flatMap_append]
  rfl

theorem namesAt_eq_nil {marks : List Mark} (h : ∀ mark ∈ marks, byte < mark.span.start) :
    namesAt marks byte = [] := by
  have hnone : marks.filter (·.span.Contains byte) = [] := by
    refine List.filter_eq_nil_iff.mpr fun mark hmem hcontains => ?_
    have hlt := h mark hmem
    have hle := (of_decide_eq_true hcontains).1
    omega
  rw [namesAt, hnone, List.flatMap_nil]

end Mark

namespace Paint

/-- Paints marks one after another; `around` are those that are still open, the innermost first. -/
def layMarks (base : List String) : List Mark → List OpenCapture → Paint → Paint
  | [], around, paint => paint.leaveAll around
  | mark :: rest, around, paint =>
    let (paint, around) := paint.leave mark.span.start around
    let outer := (around.head?.map (·.1)).getD base
    let paint := paint.upTo mark.span.start outer
    if mark.names.isEmpty then layMarks base rest around paint
    else layMarks base rest ((outer ++ mark.names, mark.span.stop) :: around) paint

end Paint

namespace Capturing

variable {capturing : Capturing ρ} {group : Nat} {id : RuleId}

/-- The mark of a capture that has text. -/
def mark? (capturing : Capturing ρ) : Nat × RuleId → Option Mark
  | (group, id) =>
    match (capturing.found.groups[group]?).join with
    | none => none
    | some span => if span.start = span.stop then none else some ⟨capturing.names id, span⟩

def marks (capturing : Capturing ρ) (captures : Captures) : List Mark :=
  captures.filterMap capturing.mark?

theorem mark?_of_none (h : (capturing.found.groups[group]?).join = none) :
    capturing.mark? (group, id) = none := by
  simp only [mark?, h]

theorem mark?_of_empty (h : (capturing.found.groups[group]?).join = some span)
    (hempty : span.start = span.stop) : capturing.mark? (group, id) = none := by
  simp only [mark?, h, if_pos hempty]

theorem mark?_of_text (h : (capturing.found.groups[group]?).join = some span)
    (htext : span.start ≠ span.stop) :
    capturing.mark? (group, id) = some ⟨capturing.names id, span⟩ := by
  simp only [mark?, h, if_neg htext]

variable {m : Type → Type} [Monad m] [MonadExceptOf (Halt TokenizeError) m] {rescan : Rescan m ρ}

/-- Captures without patterns are painted as marks, and no text is tokenized anew. -/
theorem paintFrom_eq_layMarks {captures : Captures}
    (h : ∀ capture ∈ captures, (capturing.grammar.rule capture.2).patterns = [])
    (around : List OpenCapture) (paint : Paint) :
    capturing.paintFrom rescan captures around paint =
      pure (paint.layMarks capturing.stack.scopes (capturing.marks captures) around) := by
  induction captures generalizing around paint with
  | nil => rfl
  | cons capture rest ih =>
    obtain ⟨group, id⟩ := capture
    obtain ⟨hpatterns, hrest⟩ := List.forall_mem_cons.mp h
    have ih := ih hrest
    have hempty : ((capturing.grammar.rule id).patterns.isEmpty) = true := by rw [hpatterns]; rfl
    cases hspan : (capturing.found.groups[group]?).join with
    | none =>
      rw [marks, List.filterMap_cons_none (mark?_of_none hspan)]
      simp only [paintFrom, hspan]
      exact ih around paint
    | some span =>
      by_cases hne : span.start = span.stop
      · rw [marks, List.filterMap_cons_none (mark?_of_empty hspan hne)]
        simp only [paintFrom, hspan, if_pos hne]
        exact ih around paint
      · rw [marks, List.filterMap_cons_some (mark?_of_text hspan hne)]
        simp only [paintFrom, hspan, if_neg hne, hempty, not_true_eq_false, if_false,
          Paint.layMarks]
        split
        · exact ih _ _
        · exact ih _ _

end Capturing

-- ---------------------------------------------------------------------------
-- Colors
-- ---------------------------------------------------------------------------

namespace Paint

/-- Strokes have been added from where the paint ended, each in the color of all of its bytes. -/
def Colors (color : Nat → List String) (before after : Paint) : Prop :=
  ∃ strokes, after.strokes = before.strokes ++ strokes ∧ Tiles before.stop strokes after.stop ∧
    ∀ stroke ∈ strokes, ∀ byte, stroke.start ≤ byte → byte < stroke.stop →
      stroke.scopes = color byte

variable {color : Nat → List String} {before paint : Paint} {base : List String}

theorem Colors.refl (color : Nat → List String) (paint : Paint) : paint.Colors color paint :=
  ⟨[], (List.append_nil _).symm, rfl, nofun⟩

theorem Colors.upTo (h : before.Colors color paint) {stop : Nat} {scopes : List String}
    (hcolor : ∀ byte, paint.stop ≤ byte → byte < stop → color byte = scopes) :
    before.Colors color (paint.upTo stop scopes) := by
  unfold Paint.upTo
  split
  · exact h
  · obtain ⟨strokes, hstrokes, htiles, hcolors⟩ := h
    refine ⟨strokes ++ [⟨paint.stop, stop, scopes⟩], ?_, htiles.snoc (by omega), ?_⟩
    · rw [hstrokes, List.append_assoc]
    · refine List.forall_mem_append.mpr ⟨hcolors, List.forall_mem_singleton.mpr ?_⟩
      exact fun byte hstart hstop => (hcolor byte hstart hstop).symm

/-- The scopes that the open captures give to a byte: those of the innermost one that does not end
before it. -/
def scopesAt (base : List String) : List OpenCapture → Nat → List String
  | [], _ => base
  | (scopes, stop) :: around, byte => if byte < stop then scopes else scopesAt base around byte

theorem scopesAt_of_lt {around : List OpenCapture} (base : List String)
    (h : ∀ capture ∈ around, byte < capture.2) :
    scopesAt base around byte = (around.head?.map (·.1)).getD base := by
  cases around with
  | nil => rfl
  | cons capture rest =>
    obtain ⟨scopes, stop⟩ := capture
    exact if_pos (h (scopes, stop) List.mem_cons_self)

/-- Captures that contain one another: none of them ends after those around it. -/
def Nested (around : List OpenCapture) : Prop :=
  around.Pairwise fun inner outer => inner.2 ≤ outer.2

/-- What is left of the open captures at a position, and what has been painted of them. -/
structure Left (color : Nat → List String) (base : List String) (around : List OpenCapture)
    (before paint : Paint) (pos : Nat) (left : Paint × List OpenCapture) : Prop where
  colors : before.Colors color left.1
  between : paint.stop ≤ left.1.stop ∧ left.1.stop ≤ pos
  open_ : left.2 <:+ around ∧ ∀ capture ∈ left.2, pos < capture.2
  scopes : ∀ byte, left.1.stop ≤ byte → scopesAt base left.2 byte = scopesAt base around byte

theorem leave_left {around : List OpenCapture} (hnested : Nested around)
    (h : before.Colors color paint) (hpos : paint.stop ≤ pos)
    (hcolor : ∀ byte, paint.stop ≤ byte → byte < pos → color byte = scopesAt base around byte) :
    Left color base around before paint pos (paint.leave pos around) := by
  induction around generalizing paint with
  | nil => exact ⟨h, ⟨Nat.le_refl _, hpos⟩, ⟨List.suffix_refl _, nofun⟩, fun _ _ => rfl⟩
  | cons capture rest ih =>
    obtain ⟨scopes, stop⟩ := capture
    obtain ⟨houter, hrest⟩ := List.pairwise_cons.mp hnested
    unfold Paint.leave
    split
    · next hstop =>
      have hpainted : before.Colors color (paint.upTo stop scopes) := by
        refine h.upTo fun byte hstart hbyte => ?_
        rw [hcolor byte hstart (by omega), scopesAt, if_pos hbyte]
      have hbeyond : ∀ byte, (paint.upTo stop scopes).stop ≤ byte →
          scopesAt base ((scopes, stop) :: rest) byte = scopesAt base rest byte := by
        intro byte hbyte
        rw [stop_upTo] at hbyte
        rw [scopesAt, if_neg (by omega)]
      obtain ⟨hcolors, ⟨hfrom, hto⟩, ⟨hsuffix, hopen⟩, hscopes⟩ := ih hrest hpainted
        (by rw [stop_upTo]; omega) fun byte hstart hbyte => by
          have hbefore := (paint.stop_upTo stop scopes).symm ▸ hstart
          rw [hcolor byte (by omega) hbyte, hbeyond byte hstart]
      rw [stop_upTo] at hfrom
      refine ⟨hcolors, ⟨by omega, hto⟩, ⟨hsuffix.trans (List.suffix_cons _ _), hopen⟩, ?_⟩
      intro byte hbyte
      rw [hscopes byte hbyte, hbeyond byte (by rw [stop_upTo]; omega)]
    · next hstop =>
      refine ⟨h, ⟨Nat.le_refl _, hpos⟩, ⟨List.suffix_refl _, ?_⟩, fun _ _ => rfl⟩
      refine List.forall_mem_cons.mpr ⟨by omega, fun capture hmem => ?_⟩
      have hle := houter capture hmem
      simp only at hle
      omega

theorem leaveAll_eq_leave {around : List OpenCapture} (paint : Paint)
    (h : ∀ capture ∈ around, capture.2 ≤ pos) :
    paint.leaveAll around = (paint.leave pos around).1 := by
  induction around generalizing paint with
  | nil => rfl
  | cons capture rest ih =>
    obtain ⟨scopes, stop⟩ := capture
    obtain ⟨hstop, hrest⟩ := List.forall_mem_cons.mp h
    rw [Paint.leave, if_pos hstop]
    exact ih _ hrest

/-- What holds while marks are painted: the colors of what follows are those of the open captures
and of the marks that are still to come. -/
structure Laying (color : Nat → List String) (base : List String) (before : Paint) (last : Nat)
    (marks : List Mark) (around : List OpenCapture) (paint : Paint) : Prop where
  colors : before.Colors color paint
  scopes : ∀ byte, paint.stop ≤ byte →
    color byte = scopesAt base around byte ++ Mark.namesAt marks byte
  reached : paint.stop ≤ last
  ahead : ∀ mark ∈ marks, paint.stop ≤ mark.span.start ∧ mark.span.start ≤ mark.span.stop ∧
    mark.span.stop ≤ last
  order : marks.Pairwise fun lower upper => lower.span.Around upper.span
  nested : Nested around
  ends : ∀ capture ∈ around, capture.2 ≤ last
  apart : ∀ capture ∈ around, ∀ mark ∈ marks,
    mark.span.stop ≤ capture.2 ∨ capture.2 ≤ mark.span.start

namespace Laying

variable {last : Nat} {mark : Mark} {marks : List Mark} {around : List OpenCapture}
  {left : Paint × List OpenCapture}

/-- Before the next mark begins, there is only what is open. -/
theorem leave (h : Laying color base before last (mark :: marks) around paint) :
    Left color base around before paint mark.span.start (paint.leave mark.span.start around) := by
  obtain ⟨hahead, hrest⟩ := List.forall_mem_cons.mp h.ahead
  obtain ⟨hfirst, -⟩ := List.pairwise_cons.mp h.order
  refine leave_left h.nested h.colors hahead.1 fun byte hstart hbyte => ?_
  have hnone : Mark.namesAt (mark :: marks) byte = [] := by
    refine Mark.namesAt_eq_nil (List.forall_mem_cons.mpr ⟨hbyte, fun other hmem => ?_⟩)
    have := (hfirst other hmem).1
    omega
  rw [h.scopes byte hstart, hnone, List.append_nil]

/-- The next mark lies within the captures that are still open where it begins. -/
theorem next (h : Laying color base before last (mark :: marks) around paint)
    (hleft : Left color base around before paint mark.span.start left)
    {outer : List String} (houter : outer = (left.2.head?.map (·.1)).getD base) :
    Laying color base before last marks
      (if mark.names.isEmpty then left.2 else (outer ++ mark.names, mark.span.stop) :: left.2)
      (left.1.upTo mark.span.start outer) := by
  obtain ⟨⟨hahead, hspan, hlast⟩, hrest⟩ := List.forall_mem_cons.mp h.ahead
  obtain ⟨hfirst, horder⟩ := List.pairwise_cons.mp h.order
  obtain ⟨hcolors, ⟨hfrom, hto⟩, ⟨hsuffix, hopen⟩, hscopes⟩ := hleft
  have hstop : (left.1.upTo mark.span.start outer).stop = mark.span.start := by
    rw [stop_upTo]
    omega
  -- a capture that is still open ends after the mark begins, and so not before the mark ends
  have hwithin : ∀ capture ∈ left.2, mark.span.stop ≤ capture.2 := by
    intro capture hmem
    have hapart := h.apart capture (hsuffix.subset hmem) mark List.mem_cons_self
    have hpast := hopen capture hmem
    omega
  have houter_at : ∀ byte, byte < mark.span.start ∨ byte < mark.span.stop →
      scopesAt base left.2 byte = outer := by
    intro byte hbyte
    rw [houter]
    refine scopesAt_of_lt base fun capture hmem => ?_
    have := hwithin capture hmem
    omega
  have hnested : Nested left.2 := h.nested.sublist hsuffix.sublist
  have hends : ∀ capture ∈ left.2, capture.2 ≤ last :=
    fun capture hmem => h.ends capture (hsuffix.subset hmem)
  have hapart : ∀ capture ∈ left.2, ∀ other ∈ marks,
      other.span.stop ≤ capture.2 ∨ capture.2 ≤ other.span.start :=
    fun capture hmem other hother =>
      h.apart capture (hsuffix.subset hmem) other (List.mem_cons_of_mem _ hother)
  have hcolor : ∀ byte, left.1.stop ≤ byte → color byte = scopesAt base left.2 byte ++
      ((if mark.span.Contains byte then mark.names else []) ++ Mark.namesAt marks byte) := by
    intro byte hbyte
    rw [h.scopes byte (by omega), hscopes byte hbyte, Mark.namesAt_cons]
  have hpainted : before.Colors color (left.1.upTo mark.span.start outer) := by
    refine hcolors.upTo fun byte hstart hbyte => ?_
    have hnone : Mark.namesAt marks byte = [] := by
      refine Mark.namesAt_eq_nil fun other hmem => ?_
      have := (hfirst other hmem).1
      omega
    have hnot : ¬ mark.span.Contains byte := fun hcontains => Nat.not_le_of_lt hbyte hcontains.1
    rw [hcolor byte hstart, houter_at byte (.inl hbyte), if_neg hnot, hnone, List.append_nil,
      List.append_nil]
  have hahead : ∀ other ∈ marks, (left.1.upTo mark.span.start outer).stop ≤ other.span.start ∧
      other.span.start ≤ other.span.stop ∧ other.span.stop ≤ last := by
    intro other hmem
    rw [hstop]
    exact ⟨(hfirst other hmem).1, (hrest other hmem).2⟩
  by_cases hnames : mark.names.isEmpty
  · rw [if_pos hnames]
    refine ⟨hpainted, fun byte hbyte => ?_, by omega, hahead, horder, hnested, hends, hapart⟩
    rw [hcolor byte (by omega), List.isEmpty_iff.mp hnames, ite_self, List.nil_append]
  · rw [if_neg hnames]
    refine ⟨hpainted, fun byte hbyte => ?_, by omega, hahead, horder,
      List.pairwise_cons.mpr ⟨hwithin, hnested⟩, List.forall_mem_cons.mpr ⟨hlast, hends⟩,
      List.forall_mem_cons.mpr ⟨fun other hmem => (hfirst other hmem).2, hapart⟩⟩
    rw [hcolor byte (by omega), scopesAt]
    by_cases hbefore : byte < mark.span.stop
    · rw [if_pos ⟨by omega, hbefore⟩, if_pos hbefore, houter_at byte (.inr hbefore),
        List.append_assoc]
    · rw [if_neg fun hcontains => hbefore hcontains.2, if_neg hbefore, List.nil_append]

theorem colors_layMarks (h : Laying color base before last marks around paint) :
    before.Colors color ((paint.layMarks base marks around).upTo last base) ∧
      ((paint.layMarks base marks around).upTo last base).stop = last := by
  induction marks generalizing around paint with
  | nil =>
    have hleft : Left color base around before paint last (paint.leave last around) :=
      leave_left h.nested h.colors h.reached fun byte hstart _ => by
        rw [h.scopes byte hstart]
        exact List.append_nil _
    rw [layMarks, leaveAll_eq_leave paint h.ends]
    obtain ⟨hcolors, ⟨hfrom, hto⟩, ⟨hsuffix, hopen⟩, hscopes⟩ := hleft
    refine ⟨hcolors.upTo fun byte hstart hbyte => ?_, ?_⟩
    · have hnone : (paint.leave last around).2 = [] := by
        refine List.eq_nil_iff_forall_not_mem.mpr fun capture hmem => ?_
        exact Nat.not_le_of_lt (hopen capture hmem) (h.ends capture (hsuffix.subset hmem))
      have hbase := hscopes byte hstart
      rw [hnone] at hbase
      rw [h.scopes byte (by omega), ← hbase]
      exact List.append_nil _
    · rw [stop_upTo]
      omega
  | cons mark marks ih =>
    have hnext := h.next h.leave rfl
    simp only [layMarks]
    split at hnext
    · next hnames => rw [if_pos hnames]; exact ih hnext
    · next hnames => rw [if_neg hnames]; exact ih hnext

end Laying

end Paint

-- ---------------------------------------------------------------------------
-- Matches
-- ---------------------------------------------------------------------------

namespace Groups

/-- Whether a group took part and has a byte of the text. -/
def contains (groups : Groups) (group byte : Nat) : Bool :=
  (groups[group]?).join.any (·.Contains byte)

/-- The groups with text lie within a span, each of them within or after those with lower
numbers. -/
structure WellNested (groups : Groups) (whole : Text.Span) : Prop where
  within : ∀ group ∈ groups, ∀ span ∈ group, span.start ≠ span.stop →
    whole.start ≤ span.start ∧ span.start ≤ span.stop ∧ span.stop ≤ whole.stop
  nested : groups.Pairwise fun lower upper => ∀ outer ∈ lower, ∀ inner ∈ upper,
    outer.start ≠ outer.stop → inner.start ≠ inner.stop → outer.Around inner

end Groups

namespace Capturing

variable {capturing : Capturing ρ}

/-- The names of the captures that contain a byte, in the order of their numbers. -/
def namesAt (capturing : Capturing ρ) (byte : Nat) : List String :=
  (capturing.captures.filter fun capture =>
    capturing.found.groups.contains capture.1 byte).flatMap fun capture => capturing.names capture.2

theorem mark?_eq_some {capture : Nat × RuleId} (h : capturing.mark? capture = some mark) :
    (capturing.found.groups[capture.1]?).join = some mark.span ∧
      mark.span.start ≠ mark.span.stop := by
  obtain ⟨group, id⟩ := capture
  cases hspan : (capturing.found.groups[group]?).join with
  | none => exact absurd (h.symm.trans (mark?_of_none hspan)) (Option.some_ne_none mark)
  | some span =>
    by_cases hempty : span.start = span.stop
    · exact absurd (h.symm.trans (mark?_of_empty hspan hempty)) (Option.some_ne_none mark)
    · obtain rfl := Option.some.inj (h.symm.trans (mark?_of_text hspan hempty))
      exact ⟨rfl, hempty⟩

theorem namesAt_mark? (capturing : Capturing ρ) (capture : Nat × RuleId) (byte : Nat) :
    Mark.namesAt (capturing.mark? capture).toList byte =
      if capturing.found.groups.contains capture.1 byte then capturing.names capture.2 else [] := by
  obtain ⟨group, id⟩ := capture
  cases hspan : (capturing.found.groups[group]?).join with
  | none =>
    rw [mark?_of_none hspan, Groups.contains, hspan]
    rfl
  | some span =>
    by_cases hempty : span.start = span.stop
    · have hnot : ¬ span.Contains byte := by
        rintro ⟨hstart, hstop⟩
        omega
      rw [mark?_of_empty hspan hempty, Groups.contains, hspan, Option.any_some,
        decide_eq_false hnot]
      rfl
    · rw [mark?_of_text hspan hempty, Groups.contains, hspan, Option.any_some, Option.toList_some,
        Mark.namesAt_cons]
      simp only [Mark.namesAt, List.filter_nil, List.flatMap_nil, List.append_nil,
        decide_eq_true_eq]

theorem namesAt_marks (capturing : Capturing ρ) (byte : Nat) :
    Mark.namesAt (capturing.marks capturing.captures) byte = capturing.namesAt byte := by
  unfold namesAt
  induction capturing.captures with
  | nil => rfl
  | cons capture rest ih =>
    have hmarks : capturing.marks (capture :: rest) =
        (capturing.mark? capture).toList ++ capturing.marks rest := by
      unfold marks
      cases hmark : capturing.mark? capture with
      | none => rw [List.filterMap_cons_none hmark]; rfl
      | some mark => rw [List.filterMap_cons_some hmark]; rfl
    rw [hmarks, Mark.namesAt_append, namesAt_mark?, ih, List.filter_cons]
    split <;> rfl

theorem marks_around (hnested : capturing.found.groups.WellNested whole)
    (horder : capturing.captures.Pairwise fun lower upper => lower.1 < upper.1) :
    (capturing.marks capturing.captures).Pairwise fun lower upper =>
      lower.span.Around upper.span := by
  refine List.pairwise_filterMap.mpr (horder.imp ?_)
  intro lower upper hlt outer houter inner hinner
  obtain ⟨hlower, houterText⟩ := mark?_eq_some houter
  obtain ⟨hupper, hinnerText⟩ := mark?_eq_some hinner
  obtain ⟨hi, hlower⟩ := List.getElem?_eq_some_iff.mp (Option.join_eq_some_iff.mp hlower)
  obtain ⟨hj, hupper⟩ := List.getElem?_eq_some_iff.mp (Option.join_eq_some_iff.mp hupper)
  exact List.pairwise_iff_getElem.mp hnested.nested _ _ hi hj hlt _ hlower _ hupper houterText
    hinnerText

theorem marks_within (hnested : capturing.found.groups.WellNested whole) (captures : Captures) :
    ∀ mark ∈ capturing.marks captures, whole.start ≤ mark.span.start ∧
      mark.span.start ≤ mark.span.stop ∧ mark.span.stop ≤ whole.stop := by
  intro mark hmem
  obtain ⟨capture, -, hmark⟩ := List.mem_filterMap.mp hmem
  obtain ⟨hspan, hne⟩ := mark?_eq_some hmark
  exact hnested.within _ (Found.mem_groups hspan) _ rfl hne

variable {m : Type → Type} [Monad m] [MonadExceptOf (Halt TokenizeError) m] {rescan : Rescan m ρ}

theorem paint_of_around [LawfulMonad m] (capturing : Capturing ρ) (rescan : Rescan m ρ)
    (before : List String) {paint : Paint}
    (hpatterns : ∀ capture ∈ capturing.captures,
      (capturing.grammar.rule capture.2).patterns = [])
    (hfound : capturing.found.start ≤ capturing.found.stop)
    (hwithin : ∀ mark ∈ capturing.marks capturing.captures,
      capturing.found.start ≤ mark.span.start ∧ mark.span.start ≤ mark.span.stop ∧
        mark.span.stop ≤ capturing.found.stop)
    (haround : (capturing.marks capturing.captures).Pairwise fun lower upper =>
      lower.span.Around upper.span)
    (hpaint : paint.stop = capturing.found.start) :
    ∃ painted strokes, capturing.paint rescan before paint = pure painted ∧
      painted.strokes = paint.strokes ++ strokes ∧
      Tiles capturing.found.start strokes capturing.found.stop ∧
      ∀ byte, capturing.found.start ≤ byte → byte < capturing.found.stop →
        ∃ stroke ∈ strokes, stroke.start ≤ byte ∧ byte < stroke.stop ∧
          stroke.scopes = capturing.stack.scopes ++ capturing.namesAt byte := by
  have hlaying : Paint.Laying (fun byte => capturing.stack.scopes ++ capturing.namesAt byte)
      capturing.stack.scopes paint capturing.found.stop (capturing.marks capturing.captures) []
      paint := by
    refine ⟨.refl _ _, fun byte _ => ?_, by omega, fun mark hmem => ?_, haround, .nil, nofun,
      nofun⟩
    · rw [namesAt_marks]
      rfl
    · rw [hpaint]
      exact hwithin mark hmem
  obtain ⟨⟨strokes, hstrokes, htiles, hcolors⟩, hstop⟩ := hlaying.colors_layMarks
  rw [hpaint, hstop] at htiles
  refine ⟨_, strokes, ?_, hstrokes, htiles, fun byte hstart hbyte => ?_⟩
  · have hstart : paint.upTo capturing.found.start before = paint := by
      rw [Paint.upTo, if_pos (Nat.le_of_eq hpaint.symm)]
    simp only [Capturing.paint, hstart, paintFrom_eq_layMarks hpatterns, pure_bind]
  · obtain ⟨stroke, hmem, hfrom, hto⟩ := htiles.exists_stroke hstart hbyte
    exact ⟨stroke, hmem, hfrom, hto, hcolors stroke hmem byte hfrom hto⟩

/-- A match whose captures have no patterns, and lie within or after one another, is painted with
the scopes of its stack, and each byte also with the names of just those captures that contain
it. -/
theorem paint_byContainment [LawfulMonad m] (capturing : Capturing ρ) (rescan : Rescan m ρ)
    (before : List String) {paint : Paint}
    (hpatterns : ∀ capture ∈ capturing.captures,
      (capturing.grammar.rule capture.2).patterns = [])
    (horder : capturing.captures.Pairwise fun lower upper => lower.1 < upper.1)
    (hfound : capturing.found.start ≤ capturing.found.stop)
    (hnested : capturing.found.groups.WellNested ⟨capturing.found.start, capturing.found.stop⟩)
    (hpaint : paint.stop = capturing.found.start) :
    ∃ painted strokes, capturing.paint rescan before paint = pure painted ∧
      painted.strokes = paint.strokes ++ strokes ∧
      Tiles capturing.found.start strokes capturing.found.stop ∧
      ∀ byte, capturing.found.start ≤ byte → byte < capturing.found.stop →
        ∃ stroke ∈ strokes, stroke.start ≤ byte ∧ byte < stroke.stop ∧
          stroke.scopes = capturing.stack.scopes ++ capturing.namesAt byte :=
  paint_of_around capturing rescan before hpatterns hfound (marks_within hnested capturing.captures)
    (marks_around hnested horder) hpaint

/-- A call `f(ab,)`: its parentheses with all that is within them are two captures, and so is
the comma; one capture takes no part, and one has no text. -/
def call : Capturing Unit where
  stack := .initial ⟨"source.x", none, #[], 0, []⟩
  grammar := ⟨"source.x", none, #[.group none [], .group (some "call.x") [],
    .group (some "name.$1.x") [], .group (some "parens.x round.x") [], .group (some "inner.x") [],
    .group (some "never.x") []], 0, []⟩
  captures := [(0, 1), (1, 2), (2, 3), (3, 0), (4, 4), (5, 5), (6, 5), (7, 4), (8, 3)]
  text := "f(ab,)\n"
  found := ⟨0, 6, [some ⟨0, 6⟩, some ⟨0, 1⟩, some ⟨1, 6⟩, some ⟨1, 6⟩, some ⟨2, 4⟩, none,
    some ⟨4, 4⟩, some ⟨4, 5⟩, some ⟨4, 5⟩]⟩

theorem paint_byContainment_call : ∃ painted,
    call.paint (m := Except (Halt TokenizeError)) (fun _ => .error (.crash .cutCharacter)) []
      (.startingAt 0) = .ok painted ∧
    (List.range 6).map call.namesAt = [["call.x", "name.f.x"],
      ["call.x", "parens.x", "round.x"], ["call.x", "parens.x", "round.x", "inner.x"],
      ["call.x", "parens.x", "round.x", "inner.x"],
      ["call.x", "parens.x", "round.x", "inner.x", "parens.x", "round.x"],
      ["call.x", "parens.x", "round.x"]] ∧
    ∀ byte < 6, ∃ stroke ∈ painted.strokes, stroke.start ≤ byte ∧ byte < stroke.stop ∧
      stroke.scopes = ["source.x"] ++ call.namesAt byte := by
  have hstart : (Paint.startingAt 0).stop = call.found.start := rfl
  obtain ⟨painted, strokes, hpaint, hstrokes, -, hbytes⟩ :=
    call.paint_byContainment (m := Except (Halt TokenizeError))
      (fun _ => .error (.crash .cutCharacter)) [] (by decide) (by decide) (by decide)
      ⟨by decide, by decide⟩ hstart
  refine ⟨painted, hpaint, by decide +kernel, fun byte hbyte => ?_⟩
  rw [hstrokes]
  exact hbytes byte (Nat.zero_le byte) hbyte

end Capturing

-- ---------------------------------------------------------------------------
-- Compiled grammars
-- ---------------------------------------------------------------------------

/-- In grammars that have been compiled, the captures of a match stand in the order of their
groups. If none of them has patterns, each byte is painted with the names of those that contain
it. -/
theorem Scan.Makes.paint_compiled {m : Type → Type} [Monad m] [LawfulMonad m]
    [MonadExceptOf (Halt TokenizeError) m] {context : Context m ρ} {scan : Scan ρ} {text : String}
    {found : Found} {paint : Paint} (hmakes : scan.Makes context text move found)
    (hstack : scan.stack.StoredIn context.toLibrary)
    (hgrammars : ∀ grammar ∈ context.grammars, ∃ (engine : Engine ρ) (written : Written.Grammar),
      written.body.Named ∧ Grammar.compile engine written = .ok grammar)
    (hpatterns : ∀ capture ∈ (scan.capturing text found move).captures,
      ((scan.capturing text found move).grammar.rule capture.2).patterns = [])
    (hfound : found.start ≤ found.stop)
    (hnested : found.groups.WellNested ⟨found.start, found.stop⟩)
    (hpaint : paint.stop = found.start) (rescan : Rescan m ρ) (before : List String) :
    ∃ painted strokes,
      (scan.capturing text found move).paint rescan before paint = pure painted ∧
      painted.strokes = paint.strokes ++ strokes ∧ Tiles found.start strokes found.stop ∧
      ∀ byte, found.start ≤ byte → byte < found.stop →
        ∃ stroke ∈ strokes, stroke.start ≤ byte ∧ byte < stroke.stop ∧
          stroke.scopes = (scan.stackWithin text found move).scopes ++
            (scan.capturing text found move).namesAt byte := by
  obtain ⟨engine, written, hnamed, hcompile⟩ := hgrammars _ (hmakes.matched_stored hstack).grammar
  have hrule := Grammar.ordersCaptures_of_compile hnamed hcompile (scan.matched move).id
  have hcapturing : (scan.capturing text found move).found.groups.WellNested
      ⟨found.start, found.stop⟩ := hnested
  exact Capturing.paint_of_around _ rescan before hpatterns hfound
    (Capturing.marks_within hcapturing _)
    (Capturing.marks_around hcapturing (hmakes.captures_pairwise hrule)) hpaint

end LineScopes
