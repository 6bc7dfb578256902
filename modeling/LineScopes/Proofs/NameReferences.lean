import LineScopes.Grammar.NameTemplate
import LineScopes.Proofs.PatternItems
import LineScopes.Proofs.Slicing
import Mathlib.Data.List.Forall2
import Mathlib.Data.List.TakeWhile

/-!
# The references of a name

A name is made, from left to right, of references and of characters that stand
for themselves; a dollar sign does so where no reference begins. There is one
way only to cut a name like that. The text of the groups takes the place of the
references, and all other characters stay.
-/

namespace LineScopes.NameTemplate

-- ---------------------------------------------------------------------------
-- References
-- ---------------------------------------------------------------------------

/-- What follows the word for letters that are left as captured, or changed. -/
def Letters.word : Letters → List Char
  | asCaptured => []
  | lower => ':' :: "/downcase".toList
  | upper => ':' :: "/upcase".toList

inductive Reference
  | bare (digits : List Char)
  /-- Between braces there may be a plus sign, and the letters may be changed. -/
  | braced (plus : Bool) (digits : List Char) (letters : Letters)
  deriving DecidableEq, Repr

namespace Reference

def digits : Reference → List Char
  | bare digits => digits
  | braced _ digits _ => digits

def letters : Reference → Letters
  | bare _ => .asCaptured
  | braced _ _ letters => letters

def number (ref : Reference) : Nat := Text.decimal ref.digits

def piece (ref : Reference) : Piece := .group ref.number ref.letters

/-- The number between braces, with its sign. -/
def signed (plus : Bool) (digits : List Char) : List Char :=
  if plus then '+' :: digits else digits

/-- How a reference is written, after the dollar sign. -/
def chars : Reference → List Char
  | bare digits => digits
  | braced plus digits letters =>
    '\x7b' :: (signed plus digits ++ letters.word ++ ['\x7d'])

/-- The reference begins a text that goes on with what is after it. Its number has 64 bits, and
without braces it takes all the digits there are. -/
structure Begins (ref : Reference) (text after : List Char) : Prop where
  written : text = ref.chars ++ after
  nonempty : ref.digits ≠ []
  digits : ∀ d ∈ ref.digits, d.isDigit
  small : ref.number < UInt64.size
  maximal : ref = .bare ref.digits → ∀ d ∈ after.head?, d.isDigit = false

end Reference

-- ---------------------------------------------------------------------------
-- Numbers
-- ---------------------------------------------------------------------------

theorem digits?_eq_some_iff {digits : List Char} {n : Nat} : Text.digits? digits = some n ↔
    (digits ≠ [] ∧ (∀ d ∈ digits, d.isDigit) ∧ Text.decimal digits < UInt64.size) ∧
      Text.decimal digits = n := by
  unfold Text.digits?
  split
  · next h =>
    simp only [reduceCtorEq, false_iff, not_and]
    rintro ⟨hne, hdigits, hsmall⟩
    rcases h with hnil | hdigit | hlarge
    · exact absurd (List.isEmpty_iff.mp hnil) hne
    · exact absurd (List.all_eq_true.mpr hdigits) hdigit
    · omega
  · next h =>
    simp only [not_or, not_not] at h
    obtain ⟨hnil, hdigits, hsmall⟩ := h
    have hne : digits ≠ [] := fun hnil' => hnil (List.isEmpty_iff.mpr hnil')
    simp only [Option.some.injEq, iff_and_self]
    exact fun _ => ⟨hne, List.all_eq_true.mp hdigits, Nat.not_le.mp hsmall⟩

theorem number?_signed {digits : List Char} (hdigits : ∀ d ∈ digits, d.isDigit) (plus : Bool) :
    Text.number? (Reference.signed plus digits) = Text.digits? digits := by
  cases plus with
  | true => rfl
  | false =>
    unfold Reference.signed Text.number?
    split
    · next rest heq =>
      have hplus := hdigits '+' (by simp_all)
      contradiction
    · rfl

theorem number?_eq_some_iff {signed : List Char} {n : Nat} : Text.number? signed = some n ↔
    ∃ plus digits, signed = Reference.signed plus digits ∧ Text.digits? digits = some n := by
  constructor
  · intro h
    unfold Text.number? at h
    split at h
    · next digits => exact ⟨true, digits, rfl, h⟩
    · exact ⟨false, signed, rfl, h⟩
  · rintro ⟨plus, digits, rfl, h⟩
    rw [number?_signed (digits?_eq_some_iff.mp h).1.2.1, h]

-- ---------------------------------------------------------------------------
-- Reading references
-- ---------------------------------------------------------------------------

theorem takeWhile_append_of_head? {p : α → Bool} {l rest : List α} (hl : ∀ c ∈ l, p c)
    (hrest : ∀ c ∈ rest.head?, p c = false) : (l ++ rest).takeWhile p = l := by
  rw [List.takeWhile_append_of_pos hl, BackReference.takeWhile_of_head? hrest, List.append_nil]

theorem dropWhile_append_of_head? {p : α → Bool} {l rest : List α} (hl : ∀ c ∈ l, p c)
    (hrest : ∀ c ∈ rest.head?, p c = false) : (l ++ rest).dropWhile p = rest := by
  rw [List.dropWhile_append_of_pos hl, BackReference.dropWhile_of_head? hrest]

theorem takeWhile_ne_append {c : Char} {l : List Char} (h : c ∉ l) (rest : List Char) :
    (l ++ c :: rest).takeWhile (· ≠ c) = l :=
  takeWhile_append_of_head? (fun _ hd => decide_eq_true (ne_of_mem_of_not_mem hd h)) (by simp)

theorem dropWhile_ne_append {c : Char} {l : List Char} (h : c ∉ l) (rest : List Char) :
    (l ++ c :: rest).dropWhile (· ≠ c) = c :: rest :=
  dropWhile_append_of_head? (fun _ hd => decide_eq_true (ne_of_mem_of_not_mem hd h)) (by simp)

theorem eq_append_of_dropWhile {c d : Char} {l rest : List Char}
    (h : l.dropWhile (· ≠ c) = d :: rest) : d = c ∧ l = l.takeWhile (· ≠ c) ++ c :: rest := by
  have hnot := List.head?_dropWhile_not (· ≠ c) l
  rw [h] at hnot
  obtain rfl : d = c := by simpa using hnot
  exact ⟨rfl, by rw [← h, List.takeWhile_append_dropWhile]⟩

theorem notMem_signed {c : Char} (hplus : c ≠ '+') (hc : c.isDigit = false) {digits : List Char}
    (hdigits : ∀ d ∈ digits, d.isDigit) (plus : Bool) : c ∉ Reference.signed plus digits := by
  have hnot : c ∉ digits := fun hmem => by simp [hdigits c hmem] at hc
  cases plus with
  | true => simpa [Reference.signed] using ⟨hplus, hnot⟩
  | false => exact hnot

theorem letters?_eq_some_iff {word : List Char} {letters : Letters} :
    letters? word = some letters ↔ ':' :: word = letters.word := by
  unfold letters?
  split
  · next h =>
    subst h
    cases letters <;> decide
  split
  · next h =>
    subst h
    cases letters <;> decide
  · next hlower hupper =>
    refine iff_of_false (Option.some_ne_none _).symm fun h => ?_
    cases letters with
    | asCaptured => cases h
    | lower => exact hlower (List.cons.inj h).2
    | upper => exact hupper (List.cons.inj h).2

theorem Letters.head?_word (letters : Letters) : ∀ c ∈ letters.word.head?, c = ':' := by
  intro c hc
  cases letters with
  | asCaptured => cases hc
  | lower | upper => exact (Option.some.inj hc).symm

theorem Letters.word_inj {letters letters' : Letters} (h : letters.word = letters'.word) :
    letters = letters' := by
  revert h
  cases letters <;> cases letters' <;> decide

section

variable {digits : List Char} (hdigits : ∀ d ∈ digits, d.isDigit) (plus : Bool) (letters : Letters)
include hdigits

theorem takeWhile_signed_append :
    (Reference.signed plus digits ++ letters.word).takeWhile (· ≠ ':') =
      Reference.signed plus digits := by
  have hcolon := notMem_signed (c := ':') (by decide) (by decide) hdigits plus
  exact takeWhile_append_of_head? (fun _ hc => decide_eq_true (ne_of_mem_of_not_mem hc hcolon))
    fun c hc => by simp [letters.head?_word c hc]

theorem dropWhile_signed_append :
    (Reference.signed plus digits ++ letters.word).dropWhile (· ≠ ':') = letters.word := by
  have hcolon := notMem_signed (c := ':') (by decide) (by decide) hdigits plus
  exact dropWhile_append_of_head? (fun _ hc => decide_eq_true (ne_of_mem_of_not_mem hc hcolon))
    fun c hc => by simp [letters.head?_word c hc]

theorem notMem_signed_append : '\x7d' ∉ Reference.signed plus digits ++ letters.word := by
  rw [List.mem_append, not_or]
  exact ⟨notMem_signed (by decide) (by decide) hdigits plus, by cases letters <;> decide⟩

end

theorem braced?_eq_some_iff {body : List Char} {piece : Piece} : braced? body = some piece ↔
    ∃ plus digits letters, body = Reference.signed plus digits ++ letters.word ∧
      (∃ n, Text.digits? digits = some n) ∧
      (Reference.braced plus digits letters).piece = piece := by
  constructor
  · intro h
    unfold braced? at h
    simp only at h
    split at h
    · next hword =>
      obtain ⟨n, hn, rfl⟩ := Option.map_eq_some_iff.mp h
      obtain ⟨plus, digits, hsigned, hdigits⟩ := number?_eq_some_iff.mp hn
      refine ⟨plus, digits, .asCaptured, ?_, ⟨n, hdigits⟩, ?_⟩
      · change body = _ ++ []
        rw [← hsigned, ← hword, List.takeWhile_append_dropWhile]
      · rw [← (digits?_eq_some_iff.mp hdigits).2]
        rfl
    · next colon word hword =>
      obtain ⟨rfl, hbody⟩ := eq_append_of_dropWhile hword
      obtain ⟨n, hn, hletters⟩ := Option.bind_eq_some_iff.mp h
      obtain ⟨letters, hletters, hpiece⟩ := Option.bind_eq_some_iff.mp hletters
      obtain ⟨plus, digits, hsigned, hdigits⟩ := number?_eq_some_iff.mp hn
      refine ⟨plus, digits, letters, ?_, ⟨n, hdigits⟩, ?_⟩
      · rw [← letters?_eq_some_iff.mp hletters, ← hsigned]
        exact hbody
      · rw [← Option.some.inj hpiece, ← (digits?_eq_some_iff.mp hdigits).2]
        rfl
  · rintro ⟨plus, digits, letters, rfl, ⟨n, hdigits⟩, rfl⟩
    obtain ⟨⟨-, hall, -⟩, hn⟩ := digits?_eq_some_iff.mp hdigits
    have hnumber : Text.number? (Reference.signed plus digits) = some n :=
      (number?_signed hall plus).trans hdigits
    unfold braced?
    rw [takeWhile_signed_append hall, dropWhile_signed_append hall]
    cases letters with
    | asCaptured =>
      rw [hnumber, ← hn]
      rfl
    | lower | upper =>
      rw [hnumber, ← hn]
      rfl

theorem Reference.Begins.digits?_eq {ref : Reference} {text after : List Char}
    (h : ref.Begins text after) : Text.digits? ref.digits = some ref.number :=
  digits?_eq_some_iff.mpr ⟨⟨h.nonempty, h.digits, h.small⟩, rfl⟩

theorem Reference.Begins.bare_digits {digits text after : List Char}
    (h : (bare digits).Begins text after) :
    text.takeWhile Char.isDigit = digits ∧ text.dropWhile Char.isDigit = after := by
  have hall : ∀ d ∈ digits, d.isDigit := h.digits
  obtain rfl : text = digits ++ after := h.written
  exact ⟨takeWhile_append_of_head? hall (h.maximal rfl),
    dropWhile_append_of_head? hall (h.maximal rfl)⟩

theorem Reference.Begins.braced_inner {plus : Bool} {digits : List Char} {letters : Letters}
    {text after : List Char} (h : (braced plus digits letters).Begins text after) :
    ∃ inner, text = '\x7b' :: inner ∧
      inner.takeWhile (· ≠ '\x7d') = signed plus digits ++ letters.word ∧
      inner.dropWhile (· ≠ '\x7d') = '\x7d' :: after := by
  have hclose := notMem_signed_append h.digits plus letters
  refine ⟨_, ?_, takeWhile_ne_append hclose after, dropWhile_ne_append hclose after⟩
  rw [h.written]
  simp [chars, Reference.digits]

theorem reference?_eq_some_iff {text after : List Char} {piece : Piece} :
    reference? text = some (piece, after) ↔
      ∃ ref : Reference, ref.Begins text after ∧ ref.piece = piece := by
  constructor
  · intro h
    unfold reference? at h
    split at h
    · next inner =>
      split at h
      · next close rest hclose =>
        obtain ⟨piece, hbody, heq⟩ := Option.map_eq_some_iff.mp h
        obtain ⟨rfl, rfl⟩ := Prod.mk.inj heq
        obtain ⟨plus, digits, letters, hwritten, ⟨n, hdigits⟩, hpiece⟩ :=
          braced?_eq_some_iff.mp hbody
        obtain ⟨hne, hall, hsmall⟩ := (digits?_eq_some_iff.mp hdigits).1
        obtain ⟨rfl, hinner⟩ := eq_append_of_dropWhile hclose
        refine ⟨.braced plus digits letters, ⟨?_, hne, hall, hsmall, fun heq => ?_⟩, hpiece⟩
        · rw [hinner, hwritten]
          simp [Reference.chars]
        · cases heq
      · contradiction
    · obtain ⟨n, hdigits, heq⟩ := Option.map_eq_some_iff.mp h
      obtain ⟨rfl, rfl⟩ := Prod.mk.inj heq
      obtain ⟨⟨hne, hall, hsmall⟩, rfl⟩ := digits?_eq_some_iff.mp hdigits
      refine ⟨.bare (text.takeWhile Char.isDigit), ⟨?_, hne, hall, hsmall, fun _ d hd => ?_⟩, rfl⟩
      · exact List.takeWhile_append_dropWhile.symm
      · have hnot := List.head?_dropWhile_not Char.isDigit text
        rwa [Option.mem_def.mp hd] at hnot
  · rintro ⟨ref, h, rfl⟩
    have hdigits := h.digits?_eq
    cases ref with
    | bare digits =>
      obtain ⟨htake, hdrop⟩ := h.bare_digits
      unfold reference?
      split
      · next inner => exact absurd htake.symm h.nonempty
      · rw [htake, hdrop]
        exact congrArg _ hdigits
    | braced plus digits letters =>
      obtain ⟨inner, rfl, htake, hdrop⟩ := h.braced_inner
      have hbody := braced?_eq_some_iff.mpr ⟨plus, digits, letters, rfl, ⟨_, hdigits⟩, rfl⟩
      rw [reference?]
      simp only [htake, hdrop, hbody]
      rfl

theorem reference?_eq_none_iff {text : List Char} :
    reference? text = none ↔ ∀ (ref : Reference) after, ¬ ref.Begins text after := by
  constructor
  · intro h ref after hbegins
    rw [reference?_eq_some_iff.mpr ⟨ref, hbegins, rfl⟩] at h
    contradiction
  · intro h
    refine Option.eq_none_iff_forall_ne_some.mpr fun ⟨piece, after⟩ hsome => ?_
    obtain ⟨ref, hbegins, -⟩ := reference?_eq_some_iff.mp hsome
    exact h ref after hbegins

theorem signed_inj {plus plus' : Bool} {digits digits' : List Char}
    (hdigits : ∀ d ∈ digits, d.isDigit) (hdigits' : ∀ d ∈ digits', d.isDigit)
    (h : Reference.signed plus digits = Reference.signed plus' digits') :
    plus = plus' ∧ digits = digits' := by
  cases plus with
  | true =>
    cases plus' with
    | true => exact ⟨rfl, (List.cons.inj h).2⟩
    | false =>
      obtain rfl : '+' :: digits = digits' := h
      have hplus := hdigits' '+' List.mem_cons_self
      contradiction
  | false =>
    cases plus' with
    | true =>
      obtain rfl : digits = '+' :: digits' := h
      have hplus := hdigits '+' List.mem_cons_self
      contradiction
    | false => exact ⟨rfl, h⟩

/-- At most one reference begins a text. -/
theorem Reference.Begins.unique {ref ref' : Reference} {text after after' : List Char}
    (h : ref.Begins text after) (h' : ref'.Begins text after') : ref = ref' ∧ after = after' := by
  suffices heq : ref = ref' by
    subst heq
    exact ⟨rfl, List.append_cancel_left (h.written.symm.trans h'.written)⟩
  cases ref with
  | bare digits =>
    cases ref' with
    | bare digits' => rw [← h.bare_digits.1, ← h'.bare_digits.1]
    | braced =>
      obtain ⟨inner, rfl, -⟩ := h'.braced_inner
      exact absurd h.bare_digits.1.symm h.nonempty
  | braced plus digits letters =>
    obtain ⟨inner, rfl, hinner, -⟩ := h.braced_inner
    cases ref' with
    | bare => exact absurd h'.bare_digits.1.symm h'.nonempty
    | braced plus' digits' letters' =>
      obtain ⟨inner', hcons, hinner', -⟩ := h'.braced_inner
      obtain rfl := (List.cons.inj hcons).2
      have hsame := hinner.symm.trans hinner'
      have hall : ∀ d ∈ digits, d.isDigit := h.digits
      have hall' : ∀ d ∈ digits', d.isDigit := h'.digits
      have hsigned := congrArg (List.takeWhile (· ≠ ':')) hsame
      rw [takeWhile_signed_append hall, takeWhile_signed_append hall'] at hsigned
      rw [hsigned] at hsame
      obtain ⟨rfl, rfl⟩ := signed_inj hall hall' hsigned
      rw [Letters.word_inj (List.append_cancel_left hsame)]

-- ---------------------------------------------------------------------------
-- Items
-- ---------------------------------------------------------------------------

inductive Item
  | char (c : Char)
  | reference (ref : Reference)
  deriving DecidableEq, Repr

namespace Item

def chars : Item → List Char
  | char c => [c]
  | reference ref => '$' :: ref.chars

def piece : Item → Piece
  | char c => .char c
  | reference ref => ref.piece

end Item

/-- The name that items are written as. -/
def written (items : List Item) : List Char := items.flatMap Item.chars

@[simp] theorem written_nil : written [] = [] := rfl

@[simp] theorem written_cons (item : Item) (rest : List Item) :
    written (item :: rest) = item.chars ++ written rest := List.flatMap_cons

/-- Items that are met one after another in the name that they are written as. -/
inductive Aligned : List Item → Prop
  | nil : Aligned []
  /-- A dollar sign stands for itself if no reference begins after it. -/
  | char {c rest} : (c = '$' → ∀ (ref : Reference) after, ¬ ref.Begins (written rest) after) →
      Aligned rest → Aligned (.char c :: rest)
  | reference {ref rest} : ref.Begins (ref.chars ++ written rest) (written rest) →
      Aligned rest → Aligned (.reference ref :: rest)

theorem exists_aligned (template : List Char) :
    ∃ l, Aligned l ∧ written l = template ∧ l.map Item.piece = pieces template := by
  fun_induction pieces template with
  | case1 => exact ⟨[], .nil, rfl, rfl⟩
  | case2 rest piece after h _ ih =>
    obtain ⟨l, haligned, rfl, hpieces⟩ := ih
    obtain ⟨ref, hbegins, rfl⟩ := reference?_eq_some_iff.mp h
    obtain rfl := hbegins.written
    refine ⟨.reference ref :: l, .reference hbegins haligned, rfl, ?_⟩
    rw [List.map_cons, hpieces]
    rfl
  | case3 rest h ih =>
    obtain ⟨l, haligned, rfl, hpieces⟩ := ih
    refine ⟨.char '$' :: l, .char (fun _ => reference?_eq_none_iff.mp h) haligned, rfl, ?_⟩
    rw [List.map_cons, hpieces]
    rfl
  | case4 c rest hne ih =>
    obtain ⟨l, haligned, rfl, hpieces⟩ := ih
    refine ⟨.char c :: l, .char (fun hc => absurd hc hne) haligned, rfl, ?_⟩
    rw [List.map_cons, hpieces]
    rfl

theorem Aligned.unique {l l' : List Item} (h : Aligned l) (h' : Aligned l')
    (hwritten : written l = written l') : l = l' := by
  induction h generalizing l' with
  | nil =>
    cases h' with
    | nil => rfl
    | char => cases hwritten
    | reference => cases hwritten
  | @char c rest hdollar _ ih =>
    cases h' with
    | nil => cases hwritten
    | char _ hrest' =>
      obtain ⟨rfl, hrest⟩ := List.cons.inj hwritten
      rw [ih hrest' hrest]
    | @reference ref' rest' hbegins' _ =>
      have hrest : written rest = ref'.chars ++ written rest' := (List.cons.inj hwritten).2
      exact absurd (hrest ▸ hbegins') (hdollar (List.cons.inj hwritten).1 _ _)
  | @reference ref rest hbegins _ ih =>
    cases h' with
    | nil => cases hwritten
    | @char c' rest' hdollar' _ =>
      have hrest : ref.chars ++ written rest = written rest' := (List.cons.inj hwritten).2
      exact absurd (hrest ▸ hbegins) (hdollar' (List.cons.inj hwritten).1.symm _ _)
    | @reference ref' rest' hbegins' hrest' =>
      have htext : ref.chars ++ written rest = ref'.chars ++ written rest' :=
        (List.cons.inj hwritten).2
      obtain ⟨rfl, hrest⟩ := hbegins.unique (htext ▸ hbegins')
      rw [ih hrest' hrest]

-- ---------------------------------------------------------------------------
-- Texts
-- ---------------------------------------------------------------------------

def Letters.apply : Letters → String → String
  | asCaptured => id
  | lower => Unicode.lowercase
  | upper => Unicode.uppercase

/-- A span cuts a part out of a text, between characters. -/
def Cuts (span : Text.Span) (text part : String) : Prop :=
  ∃ before after, text = before ++ part ++ after ∧ before.utf8ByteSize = span.start ∧
    before.utf8ByteSize + part.utf8ByteSize = span.stop

theorem cuts_iff {span : Text.Span} {text part : String} :
    Cuts span text part ↔ Text.slice? text span = some part := by
  constructor
  · obtain ⟨start, stop⟩ := span
    rintro ⟨before, after, rfl, rfl, rfl⟩
    exact Text.slice?_append before part after
  · exact Text.slice?_eq_some

/-- The text of a group: what its span cuts out, or nothing if there is no such group, it took no
part in the match, or its span cuts nothing out. -/
inductive GroupText (groups : Groups) (text : String) (number : Nat) : String → Prop
  | cut {span part} : groups[number]? = some (some span) → Cuts span text part →
      GroupText groups text number part
  | none : (∀ span part, groups[number]? = some (some span) → ¬ Cuts span text part) →
      GroupText groups text number ""

variable {groups : Groups} {text : String}

theorem groupText_iff {number : Nat} {part : String} :
    GroupText groups text number part ↔ groups.captured text number = part := by
  unfold Groups.captured
  constructor
  · intro h
    cases h with
    | cut hgroup hcuts =>
      rw [hgroup, Option.join_some, Option.bind_some, cuts_iff.mp hcuts]
      rfl
    | none hnone =>
      rcases hgroup : groups[number]? with _ | _ | span
      · rfl
      · rfl
      · have hslice : Text.slice? text span = none :=
          Option.eq_none_iff_forall_ne_some.mpr fun part hpart =>
            hnone span part hgroup (cuts_iff.mpr hpart)
        rw [Option.join_some, Option.bind_some, hslice]
        rfl
  · rintro rfl
    rcases hgroup : groups[number]? with _ | _ | span
    · exact .none fun _ _ h => by simp [hgroup] at h
    · exact .none fun _ _ h => by simp [hgroup] at h
    · rw [Option.join_some, Option.bind_some]
      cases hslice : Text.slice? text span with
      | some part => exact .cut hgroup (cuts_iff.mpr hslice)
      | none =>
        refine .none fun other part hother hcuts => ?_
        obtain rfl := Option.some.inj (Option.some.inj (hgroup.symm.trans hother))
        rw [cuts_iff.mp hcuts] at hslice
        contradiction

/-- What stands in the place of an item: the text of the group without the dots it begins with, in
the letters that are asked for. -/
inductive Item.Becomes (groups : Groups) (text : String) : Item → String → Prop
  | char {c} : Becomes groups text (.char c) c.toString
  | reference {ref dots value} :
      GroupText groups text ref.number (String.ofList (dots ++ value)) → (∀ c ∈ dots, c = '.') →
      (∀ c ∈ value.head?, c ≠ '.') →
      Becomes groups text (.reference ref) (ref.letters.apply (String.ofList value))

theorem Reference.text_piece (ref : Reference) : ref.piece.text groups text =
    ref.letters.apply (String.ofList
      ((groups.captured text ref.number).toList.dropWhile (· = '.'))) := by
  unfold Reference.piece Piece.text
  cases ref.letters <;> rfl

theorem Item.becomes_iff {item : Item} {part : String} :
    item.Becomes groups text part ↔ item.piece.text groups text = part := by
  constructor
  · intro h
    cases h with
    | char => rfl
    | @reference ref dots value hgroup hdots hvalue =>
      have hdrop : (dots ++ value).dropWhile (· = '.') = value :=
        dropWhile_append_of_head? (fun c hc => decide_eq_true (hdots c hc))
          fun c hc => decide_eq_false (hvalue c hc)
      change ref.piece.text groups text = _
      rw [Reference.text_piece, groupText_iff.mp hgroup, String.toList_ofList, hdrop]
  · rintro rfl
    cases item with
    | char => exact .char
    | reference ref =>
      change (Item.reference ref).Becomes groups text (ref.piece.text groups text)
      rw [Reference.text_piece]
      generalize hcaptured : groups.captured text ref.number = captured
      have hsplit : captured = String.ofList
          (captured.toList.takeWhile (· = '.') ++ captured.toList.dropWhile (· = '.')) := by
        rw [List.takeWhile_append_dropWhile, String.ofList_toList]
      refine .reference (groupText_iff.mpr (hcaptured.trans hsplit)) (fun c hc => ?_) fun c hc => ?_
      · exact of_decide_eq_true (List.all_eq_true.mp List.all_takeWhile c hc)
      · have hnot := List.head?_dropWhile_not (· = '.') captured.toList
        rw [Option.mem_def.mp hc] at hnot
        exact of_decide_eq_false hnot

theorem forall₂_becomes_iff {l : List Item} {texts : List String} :
    List.Forall₂ (Item.Becomes groups text) l texts ↔
      texts = (l.map Item.piece).map (Piece.text groups text) := by
  have hbecomes : Item.Becomes groups text = fun item part => item.piece.text groups text = part :=
    funext₂ fun _ _ => propext Item.becomes_iff
  rw [hbecomes, List.map_map, eq_comm, ← List.forall₂_eq_eq_eq, List.forall₂_map_left_iff]
  rfl

theorem substitute_eq_iff {template part : String} : substitute template groups text = part ↔
    ∃ l texts, Aligned l ∧ written l = template.toList ∧
      List.Forall₂ (Item.Becomes groups text) l texts ∧ String.join texts = part := by
  obtain ⟨l, haligned, hwritten, hpieces⟩ := exists_aligned template.toList
  unfold substitute
  rw [← hpieces]
  constructor
  · rintro rfl
    exact ⟨l, _, haligned, hwritten, forall₂_becomes_iff.mpr rfl, rfl⟩
  · rintro ⟨l', texts, haligned', hwritten', htexts, rfl⟩
    obtain rfl := haligned.unique haligned' (hwritten.trans hwritten'.symm)
    rw [forall₂_becomes_iff.mp htexts]

end LineScopes.NameTemplate
