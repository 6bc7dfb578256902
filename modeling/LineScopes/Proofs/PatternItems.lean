import LineScopes.Grammar.Compile
import LineScopes.Proofs.BackReferences

/-!
# Patterns cut into items

From left to right, a pattern is made of back-references, of escapes, which are
a backslash with one other character, and of characters that stand alone.
Captured text takes the place of a back-reference as items of its own, none of
which runs together with what stands beside it. A pattern without
back-references is one that no captured text changes.
-/

namespace LineScopes.BackReference

inductive Item
  /-- A backslash with all the digits after it. -/
  | reference (digits : List Char)
  | escape (c : Char)
  /-- A backslash that the pattern ends with. -/
  | loneBackslash
  | plain (c : Char)
  deriving DecidableEq, Repr

namespace Item

def chars : Item → List Char
  | reference digits => '\\' :: digits
  | escape c => ['\\', c]
  | loneBackslash => ['\\']
  | plain c => [c]

/-- An escape without its backslash. -/
def unescaped : Item → List Char
  | escape c => [c]
  | item => item.chars

def isReference : Item → Bool
  | reference _ => true
  | _ => false

/-- The item that stands for a character and nothing else. -/
def ofChar (c : Char) : Item := if isSpecial c then escape c else plain c

end Item

/-- The pattern that items are written as. -/
def written (items : List Item) : List Char := items.flatMap Item.chars

def items : List Char → List Item
  | '\\' :: c :: rest =>
    if c.isDigit then
      .reference (c :: rest.takeWhile Char.isDigit) :: items (rest.dropWhile Char.isDigit)
    else .escape c :: items rest
  | ['\\'] => [.loneBackslash]
  | c :: rest => .plain c :: items rest
  | [] => []
termination_by pattern => pattern.length
decreasing_by
  · have := (List.dropWhile_suffix Char.isDigit (l := rest)).length_le
    simp only [List.length_cons]
    omega
  · simp +arith
  · simp

/-- Items that are met one after another in the pattern that they are written as: no digit stands
after those of a back-reference, a backslash alone is the last of all, and each other backslash
begins an item. -/
inductive Aligned : List Item → Prop
  | nil : Aligned []
  | reference {c digits rest} : (∀ d ∈ c :: digits, d.isDigit) →
      (∀ d ∈ (written rest).head?, d.isDigit = false) → Aligned rest →
      Aligned (.reference (c :: digits) :: rest)
  | escape {c rest} : c.isDigit = false → Aligned rest → Aligned (.escape c :: rest)
  | loneBackslash : Aligned [.loneBackslash]
  | plain {c rest} : c ≠ '\\' → Aligned rest → Aligned (.plain c :: rest)

-- ---------------------------------------------------------------------------
-- Cutting and writing
-- ---------------------------------------------------------------------------

@[simp] theorem written_nil : written [] = [] := rfl

@[simp] theorem written_cons (item : Item) (rest : List Item) :
    written (item :: rest) = item.chars ++ written rest := List.flatMap_cons

@[simp] theorem written_append (l l' : List Item) : written (l ++ l') = written l ++ written l' :=
  List.flatMap_append

theorem written_items (pattern : List Char) : written (items pattern) = pattern := by
  fun_induction items pattern with
  | case1 c rest hc ih => simp [Item.chars, ih]
  | case2 c rest hc ih => simp [Item.chars, ih]
  | case3 => rfl
  | case4 c rest hne hlone ih => simp [Item.chars, ih]
  | case5 => rfl

theorem ne_backslash {c : Char} {rest : List Char}
    (hescape : ∀ d rest', c = '\\' → rest = d :: rest' → False)
    (hlone : c = '\\' → rest = [] → False) : c ≠ '\\' := by
  rintro rfl
  cases rest with
  | nil => exact hlone rfl rfl
  | cons d rest => exact hescape d rest rfl rfl

theorem aligned_items (pattern : List Char) : Aligned (items pattern) := by
  fun_induction items pattern with
  | case1 c rest hc ih =>
    refine .reference (List.forall_mem_cons.mpr ⟨hc, ?_⟩) (fun d hd => ?_) ih
    · exact List.all_eq_true.mp List.all_takeWhile
    · rw [written_items] at hd
      have hnot := List.head?_dropWhile_not Char.isDigit rest
      rwa [Option.mem_def.mp hd] at hnot
  | case2 c rest hc ih => exact .escape (by simpa using hc) ih
  | case3 => exact .loneBackslash
  | case4 c rest hne hlone ih => exact .plain (ne_backslash hne hlone) ih
  | case5 => exact .nil

theorem takeWhile_of_head? {p : α → Bool} {l : List α} (h : ∀ a ∈ l.head?, p a = false) :
    l.takeWhile p = [] := by
  cases l with
  | nil => rfl
  | cons a l => rw [List.takeWhile_cons_of_neg (by simp [h a rfl])]

theorem dropWhile_of_head? {p : α → Bool} {l : List α} (h : ∀ a ∈ l.head?, p a = false) :
    l.dropWhile p = l := by
  cases l with
  | nil => rfl
  | cons a l => rw [List.dropWhile_cons_of_neg (by simp [h a rfl])]

theorem items_written {l : List Item} (h : Aligned l) : items (written l) = l := by
  induction h with
  | nil => simp [items]
  | @reference c digits rest hdigits hnext _ ih =>
    obtain ⟨hc, hdigits⟩ := List.forall_mem_cons.mp hdigits
    have htake : (digits ++ written rest).takeWhile Char.isDigit = digits := by
      rw [List.takeWhile_append_of_pos hdigits, takeWhile_of_head? hnext, List.append_nil]
    have hdrop : (digits ++ written rest).dropWhile Char.isDigit = written rest := by
      rw [List.dropWhile_append_of_pos hdigits, dropWhile_of_head? hnext]
    change items ('\\' :: c :: (digits ++ written rest)) = _
    rw [items, if_pos hc, htake, hdrop, ih]
  | @escape c rest hc _ ih => simp [Item.chars, items, hc, ih]
  | loneBackslash => simp [Item.chars, items]
  | @plain c rest hc _ ih => simp [Item.chars, items, hc, ih]

theorem items_eq_iff {pattern : List Char} {l : List Item} :
    items pattern = l ↔ Aligned l ∧ written l = pattern := by
  constructor
  · rintro rfl
    exact ⟨aligned_items pattern, written_items pattern⟩
  · rintro ⟨haligned, rfl⟩
    exact items_written haligned

-- ---------------------------------------------------------------------------
-- Back-references
-- ---------------------------------------------------------------------------

theorem occursIn_eq_any (pattern : List Char) :
    occursIn pattern = (items pattern).any Item.isReference := by
  fun_induction items pattern with
  | case1 c rest hc ih => simp [occursIn, hc, Item.isReference]
  | case2 c rest hc ih => simp [occursIn, hc, Item.isReference, ih]
  | case3 => rfl
  | case4 c rest hne hlone ih =>
    rw [occursIn_cons (ne_backslash hne hlone), ih, List.any_cons]
    rfl
  | case5 => rfl

namespace Item

/-- What an item becomes once it is known what takes the place of back-references. -/
def resolved (inserted : List Char → String) : Item → List Item
  | reference digits => (inserted digits).toList.map ofChar
  | item => [item]

variable {inserted : List Char → String}

theorem chars_ofChar (c : Char) : (ofChar c).chars = if isSpecial c then ['\\', c] else [c] := by
  unfold ofChar
  split <;> rfl

theorem unescaped_ofChar (c : Char) : (ofChar c).unescaped = [c] := by
  unfold ofChar
  split <;> rfl

theorem flatMap_unescaped (digits : List Char) :
    ((reference digits).resolved inserted).flatMap unescaped = (inserted digits).toList := by
  rw [resolved, List.flatMap_map]
  simp only [unescaped_ofChar, List.flatMap_singleton']

theorem flatMap_resolved_of_any {l : List Item} (h : l.any isReference = false) :
    l.flatMap (resolved inserted) = l := by
  induction l with
  | nil => rfl
  | cons item rest ih =>
    obtain ⟨hitem, hrest⟩ := Bool.or_eq_false_iff.mp h
    rw [List.flatMap_cons, ih hrest]
    cases item with
    | reference => contradiction
    | escape | loneBackslash | plain => rfl

end Item

theorem written_map_ofChar (text : List Char) : written (text.map Item.ofChar) = literal text := by
  rw [written, List.flatMap_map, literal]
  simp only [Item.chars_ofChar]

/-- A character of its own never begins or ends an item of what stands beside it. -/
theorem Aligned.map_ofChar_append {rest : List Item} (h : Aligned rest) (text : List Char) :
    Aligned (text.map Item.ofChar ++ rest) := by
  induction text with
  | nil => exact h
  | cons c text ih =>
    rw [List.map_cons, List.cons_append, Item.ofChar]
    split
    · next hspecial => exact .escape (isDigit_of_isSpecial hspecial) ih
    · next hspecial =>
      refine .plain ?_ ih
      rintro rfl
      exact hspecial (by decide)

theorem Aligned.flatMap_resolved {l : List Item} (h : Aligned l) (inserted : List Char → String) :
    Aligned (l.flatMap (Item.resolved inserted)) := by
  induction h with
  | nil => exact .nil
  | reference _ _ _ ih => exact ih.map_ofChar_append _
  | escape hc _ ih => exact .escape hc ih
  | loneBackslash => exact .loneBackslash
  | plain hc _ ih => exact .plain hc ih

theorem written_resolved (groups : Groups) (text : String) (pattern : List Char) :
    written ((items pattern).flatMap
        (Item.resolved fun digits => groups.captured text (Text.decimal digits))) =
      resolveChars groups text pattern := by
  fun_induction items pattern with
  | case1 c rest hc ih =>
    rw [List.flatMap_cons, written_append, ih, Item.resolved, written_map_ofChar]
    simp [resolveChars, hc]
  | case2 c rest hc ih =>
    rw [List.flatMap_cons, written_append, ih]
    simp [resolveChars, hc, Item.resolved, Item.chars]
  | case3 => simp [resolveChars, Item.resolved, Item.chars]
  | case4 c rest hne hlone ih =>
    rw [List.flatMap_cons, written_append, ih]
    simp [resolveChars, ne_backslash hne hlone, Item.resolved, Item.chars]
  | case5 => simp [resolveChars]

theorem items_resolveChars (groups : Groups) (text : String) (pattern : List Char) :
    items (resolveChars groups text pattern) = (items pattern).flatMap
      (Item.resolved fun digits => groups.captured text (Text.decimal digits)) :=
  items_eq_iff.mpr
    ⟨(aligned_items pattern).flatMap_resolved _, written_resolved groups text pattern⟩

theorem resolve_of_isIn_eq_false {pattern : String} (h : isIn pattern = false) (groups : Groups)
    (text : String) : resolve pattern groups text = pattern := by
  have hnone : (items pattern.toList).any Item.isReference = false := by
    rw [← occursIn_eq_any]
    exact h
  rw [resolve, ← written_resolved, Item.flatMap_resolved_of_any hnone, written_items,
    String.ofList_toList]

-- ---------------------------------------------------------------------------
-- Patterns
-- ---------------------------------------------------------------------------

/-- The text that takes the place of a back-reference: none if there is no such group, or it took
no part in the match. -/
def inserted (groups : Groups) (text : String) (digits : List Char) : String :=
  groups.captured text (Text.decimal digits)

theorem inserted_of_length_le {groups : Groups} {digits : List Char}
    (h : groups.length ≤ Text.decimal digits) (text : String) :
    inserted groups text digits = "" := by
  rw [inserted, Groups.captured, List.getElem?_eq_none h]
  rfl

/-- The captured text stands in a pattern as items of its own, one for each of its characters, and
all items but the back-references are as before. So no back-reference is left, nothing changes
when the pattern is resolved again, and without the backslashes that were added what stands in the
place of a back-reference is the captured text. There is none for a number of more than 64 bits. -/
theorem items_resolve (pattern : String) (groups : Groups) (text : String) :
    (∀ l, items pattern.toList = l ↔ Aligned l ∧ written l = pattern.toList) ∧
    items (resolve pattern groups text).toList =
      (items pattern.toList).flatMap (Item.resolved (inserted groups text)) ∧
    isIn (resolve pattern groups text) = false ∧
    (∀ groups' text',
      resolve (resolve pattern groups text) groups' text' = resolve pattern groups text) ∧
    (∀ digits, ((Item.reference digits).resolved (inserted groups text)).flatMap Item.unescaped =
      (inserted groups text digits).toList) ∧
    (groups.length ≤ UInt64.size → ∀ digits, UInt64.size ≤ Text.decimal digits →
      inserted groups text digits = "") := by
  have hnone : isIn (resolve pattern groups text) = false :=
    Bool.eq_false_iff.mpr (not_isIn_resolve pattern groups text)
  refine ⟨fun l => items_eq_iff, ?_, hnone, resolve_of_isIn_eq_false hnone, Item.flatMap_unescaped,
    fun hgroups digits hlarge => inserted_of_length_le (Nat.le_trans hgroups hlarge) text⟩
  rw [resolve, String.toList_ofList, items_resolveChars]
  rfl

/-- A group between backslashes and digits, and one that the match has not. -/
theorem items_resolve_between : ∃ groups : Groups, groups.length ≤ UInt64.size ∧
    groups.captured "a.1é" 1 = "a.1é" ∧
    items (resolve "\\\\\\1\\\\1\\9" groups "a.1é").toList =
      [.escape '\\', .plain 'a', .escape '.', .plain '1', .plain 'é', .escape '\\', .plain '1'] ∧
    isIn (resolve "\\\\\\1\\\\1\\9" groups "a.1é") = false ∧
    inserted groups "a.1é" "18446744073709551617".toList = "" := by
  let groups : Groups := [some ⟨0, 5⟩, some ⟨0, 5⟩]
  have hgroups : groups.length ≤ UInt64.size := by decide
  obtain ⟨-, hitems, hnone, -, -, hlarge⟩ := items_resolve "\\\\\\1\\\\1\\9" groups "a.1é"
  exact ⟨groups, hgroups, by decide +kernel, hitems.trans (by decide +kernel), hnone,
    hlarge hgroups _ (by decide +kernel)⟩

theorem static_ne_dynamic (engine : Engine ρ) (source pattern : String) :
    EndPattern.static <$> Compile.regex engine source ≠ pure (.dynamic pattern) := by
  intro h
  have hrun := congrFun h #[]
  unfold Compile.regex at hrun
  cases hcompile : engine.compile source with
  | ok regex =>
    rw [hcompile] at hrun
    cases hrun
  | error message =>
    rw [hcompile] at hrun
    cases hrun

/-- The patterns without back-references are those that no captured text changes, whatever groups
there are. Just these are compiled when a grammar is loaded. -/
theorem isIn_eq_false_iff (engine : Engine ρ) (pattern : String) :
    (isIn pattern = false ↔ ∀ groups text, resolve pattern groups text = pattern) ∧
    (Compile.endPattern engine pattern = .static <$> Compile.regex engine pattern ↔
      ∀ groups text, resolve pattern groups text = pattern) ∧
    (Compile.endPattern engine pattern = pure (.dynamic pattern) ↔
      ∃ groups text, resolve pattern groups text ≠ pattern) := by
  have hiff : isIn pattern = false ↔ ∀ groups text, resolve pattern groups text = pattern := by
    refine ⟨resolve_of_isIn_eq_false, fun hsame => ?_⟩
    have hnone := not_isIn_resolve pattern [] ""
    rwa [hsame, Bool.not_eq_true] at hnone
  have hchanges : (∃ groups text, resolve pattern groups text ≠ pattern) ↔ isIn pattern = true := by
    rw [← Bool.not_eq_false, hiff]
    simp only [Classical.not_forall, ne_eq]
  have hne := static_ne_dynamic engine pattern pattern
  rw [hchanges, ← hiff]
  unfold Compile.endPattern
  cases isIn pattern with
  | true => simpa using hne.symm
  | false => simpa using hne

end LineScopes.BackReference
