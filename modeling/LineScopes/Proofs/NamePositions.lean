import LineScopes.Proofs.Decoding
import LineScopes.Proofs.NameReferences

/-!
# Names by positions of bytes

The text of the groups can be put into a name by walking along its bytes: the
next dollar sign and the ends of a reference are looked for as bytes, and what
stands between is sliced out of the name. A byte below 128 is a character of
its own, so each of those positions is one between characters and none of the
slices fails.
-/

namespace LineScopes

namespace Text

-- ---------------------------------------------------------------------------
-- Characters of one byte
-- ---------------------------------------------------------------------------

/-- The byte of a character below 128. -/
def byteOf (c : Char) : UInt8 := UInt8.ofNat c.toNat

theorem utf8EncodeChar_of_lt {c : Char} (hc : c.toNat < 128) :
    String.utf8EncodeChar c = [byteOf c] := by
  have hle : c.val.toNat ≤ 127 := Nat.le_of_lt_succ hc
  rw [String.utf8EncodeChar]
  simp only [hle, if_true]
  rfl

theorem le_of_mem_utf8EncodeChar {c : Char} (hc : 128 ≤ c.toNat) {byte : UInt8}
    (h : byte ∈ String.utf8EncodeChar c) : 128 ≤ byte.toNat := by
  have hlt : ¬ c.val.toNat ≤ 127 := Nat.not_le.mpr hc
  have hmod (n : Nat) : (UInt8.ofNat n).toNat = n % 256 := UInt8.toNat_ofNat'
  rw [String.utf8EncodeChar] at h
  simp only [hlt, if_false] at h
  split at h
  · rcases List.mem_pair.mp h with rfl | rfl <;> rw [hmod] <;> omega
  split at h
  · simp only [List.mem_cons, List.not_mem_nil, or_false] at h
    rcases h with rfl | rfl | rfl <;> rw [hmod] <;> omega
  · simp only [List.mem_cons, List.not_mem_nil, or_false] at h
    rcases h with rfl | rfl | rfl | rfl <;> rw [hmod] <;> omega

theorem byteOf_notMem {c d : Char} (hc : c.toNat < 128) (hne : d ≠ c) :
    byteOf c ∉ String.utf8EncodeChar d := by
  have hmod (n : Nat) : (UInt8.ofNat n).toNat = n % 256 := UInt8.toNat_ofNat'
  intro hmem
  rcases Nat.lt_or_ge d.toNat 128 with hd | hd
  · rw [utf8EncodeChar_of_lt hd, List.mem_singleton] at hmem
    have hcode := congrArg UInt8.toNat hmem
    rw [byteOf, byteOf, hmod, hmod, Nat.mod_eq_of_lt (by omega), Nat.mod_eq_of_lt (by omega)]
      at hcode
    exact hne (Char.toNat_inj.mp hcode.symm)
  · have hlarge := le_of_mem_utf8EncodeChar hd hmem
    rw [byteOf, hmod] at hlarge
    omega

/-- The position of the first byte that is a character. -/
def indexOf? (c : Char) (bytes : List UInt8) : Option Nat := bytes.findIdx? (· = byteOf c)

theorem lt_length_of_indexOf? {c : Char} {bytes : List UInt8} {n : Nat}
    (h : indexOf? c bytes = some n) : n < bytes.length :=
  (List.findIdx?_eq_some_iff_getElem.mp h).1

variable {c : Char} (hc : c.toNat < 128)
include hc

theorem indexOf?_of_notMem {chars : List Char} (h : c ∉ chars) :
    indexOf? c (utf8 (String.ofList chars)) = none := by
  rw [utf8_ofList]
  refine List.findIdx?_eq_none_iff.mpr fun byte hbyte => decide_eq_false ?_
  rintro rfl
  obtain ⟨d, hd, hmem⟩ := List.mem_flatMap.mp hbyte
  exact byteOf_notMem hc (ne_of_mem_of_not_mem hd h) hmem

theorem indexOf?_append {front : List Char} (h : c ∉ front) (rest : List Char) :
    indexOf? c (utf8 (String.ofList (front ++ c :: rest))) =
      some (String.ofList front).utf8ByteSize := by
  have hfront := indexOf?_of_notMem hc h
  unfold indexOf? at hfront ⊢
  rw [String.ofList_append, utf8_append, List.findIdx?_append, hfront, utf8_ofList (c :: rest),
    List.flatMap_cons, utf8EncodeChar_of_lt hc]
  simp [List.findIdx?_cons]

omit hc

def isDigitByte (byte : UInt8) : Bool := 48 ≤ byte.toNat ∧ byte.toNat ≤ 57

theorem isDigitByte_of_mem {d : Char} {byte : UInt8} (h : byte ∈ String.utf8EncodeChar d) :
    isDigitByte byte = d.isDigit := by
  have hcode : d.isDigit = decide (48 ≤ d.toNat ∧ d.toNat ≤ 57) := by
    simp only [Char.isDigit, Bool.decide_and]
    rfl
  rw [isDigitByte, hcode, decide_eq_decide]
  rcases Nat.lt_or_ge d.toNat 128 with hd | hd
  · rw [utf8EncodeChar_of_lt hd, List.mem_singleton] at h
    have hbyte : byte.toNat = d.toNat := by
      rw [h]
      exact UInt8.toNat_ofNat_of_lt' (Nat.lt_trans hd (by decide))
    rw [hbyte]
  · have hlarge := le_of_mem_utf8EncodeChar hd h
    omega

theorem takeWhile_isDigitByte {digits rest : List Char} (hdigits : ∀ d ∈ digits, d.isDigit)
    (hrest : ∀ d ∈ rest.head?, d.isDigit = false) :
    (utf8 (String.ofList (digits ++ rest))).takeWhile isDigitByte =
      utf8 (String.ofList digits) := by
  rw [String.ofList_append, utf8_append]
  refine NameTemplate.takeWhile_append_of_head? (fun byte hbyte => ?_) fun byte hbyte => ?_
  · rw [utf8_ofList] at hbyte
    obtain ⟨d, hd, hmem⟩ := List.mem_flatMap.mp hbyte
    rw [isDigitByte_of_mem hmem, hdigits d hd]
  · cases rest with
    | nil => cases hbyte
    | cons d rest =>
      rw [utf8_ofList, List.flatMap_cons,
        List.head?_append_of_ne_nil _ String.utf8EncodeChar_ne_nil] at hbyte
      rw [isDigitByte_of_mem (List.mem_of_mem_head? hbyte), hrest d rfl]

end Text

namespace NameTemplate

open Text (utf8 slice? indexOf?)

-- ---------------------------------------------------------------------------
-- Walking along the bytes
-- ---------------------------------------------------------------------------

/-- The reference that a text begins with and the number of its bytes; none if a slice of the text
is none. -/
def referenceAt? (text : String) : Option (Option (Piece × Nat)) :=
  let digits := ((utf8 text).takeWhile Text.isDigitByte).length
  if 0 < digits then do
    let number ← slice? text ⟨0, digits⟩
    return (Text.digits? number.toList).map fun number => (.group number .asCaptured, digits)
  else match text.toList with
    | '\x7b' :: _ => do
      let inner ← slice? text ⟨1, text.utf8ByteSize⟩
      match indexOf? '\x7d' (utf8 inner) with
      | some close =>
        let body ← slice? inner ⟨0, close⟩
        return (braced? body.toList).map fun piece => (piece, close + 2)
      | none => return none
    | _ => return none

/-- What stands in the place of a name from a position on; none if a slice of the name is none. -/
def substituteFrom (template : String) (groups : Groups) (text : String) (start : Nat) :
    Option String :=
  match _h : indexOf? '$' ((utf8 template).drop start) with
  | none => slice? template ⟨start, template.utf8ByteSize⟩
  | some offset => do
    let dollar := start + offset
    let before ← slice? template ⟨start, dollar⟩
    match ← referenceAt? (← slice? template ⟨dollar + 1, template.utf8ByteSize⟩) with
    | some (piece, length) =>
      let after ← substituteFrom template groups text (dollar + 1 + length)
      return before ++ piece.text groups text ++ after
    | none =>
      let after ← substituteFrom template groups text (dollar + 1)
      return before ++ "$" ++ after
termination_by template.utf8ByteSize - start
decreasing_by
  all_goals
    have hlt := Text.lt_length_of_indexOf? _h
    rw [List.length_drop, Text.length_utf8] at hlt
    omega

/-- A name without dollar signs is left as it is. -/
def substituteBytes (template : String) (groups : Groups) (text : String) : Option String :=
  if (indexOf? '$' (utf8 template)).isSome then substituteFrom template groups text 0
  else some template

theorem slice?_ofList (before part after : List Char) :
    slice? (String.ofList (before ++ part ++ after)) ⟨(String.ofList before).utf8ByteSize,
      (String.ofList (before ++ part)).utf8ByteSize⟩ = some (String.ofList part) := by
  rw [String.ofList_append, String.ofList_append, String.utf8ByteSize_append]
  exact Text.slice?_append ..

/-- What is read after a dollar sign by positions of bytes is the same reference, and none of the
slices fails. -/
inductive SameReference (text : List Char) : Option (Option (Piece × Nat)) → Prop
  | none : reference? text = none → SameReference text (some none)
  | some {piece front after} : text = front ++ after → reference? text = some (piece, after) →
      SameReference text (some (some (piece, (String.ofList front).utf8ByteSize)))

theorem utf8ByteSize_ofList_pos {chars : List Char} (hne : chars ≠ []) :
    0 < (String.ofList chars).utf8ByteSize := by
  refine Nat.pos_of_ne_zero fun hzero => hne ?_
  rwa [String.utf8ByteSize_eq_zero_iff, String.ofList_eq_empty_iff] at hzero

theorem sameReference_digits {digits rest : List Char} (hne : digits ≠ [])
    (hdigits : ∀ d ∈ digits, d.isDigit) (hrest : ∀ d ∈ rest.head?, d.isDigit = false) :
    SameReference (digits ++ rest) (referenceAt? (String.ofList (digits ++ rest))) := by
  have hslice : slice? (String.ofList (digits ++ rest)) ⟨0, (String.ofList digits).utf8ByteSize⟩ =
      some (String.ofList digits) := slice?_ofList [] digits rest
  have hreference : reference? (digits ++ rest) =
      (Text.digits? digits).map fun number => (.group number .asCaptured, rest) := by
    unfold reference?
    split
    · next inner heq =>
      obtain ⟨d, others, rfl⟩ := List.exists_cons_of_ne_nil hne
      have hbrace := hdigits d List.mem_cons_self
      rw [(List.cons.inj heq).1] at hbrace
      contradiction
    · rw [takeWhile_append_of_head? hdigits hrest, dropWhile_append_of_head? hdigits hrest]
  unfold referenceAt?
  simp only [Text.takeWhile_isDigitByte hdigits hrest, Text.length_utf8,
    if_pos (utf8ByteSize_ofList_pos hne), hslice, Option.bind_eq_bind, Option.bind_some,
    String.toList_ofList]
  cases hnumber : Text.digits? digits with
  | none => exact .none (by rw [hreference, hnumber, Option.map_none])
  | some number => exact .some rfl (by rw [hreference, hnumber, Option.map_some])

theorem length_digits_eq_zero {text : List Char} (h : ∀ d ∈ text.head?, d.isDigit = false) :
    ((utf8 (String.ofList text)).takeWhile Text.isDigitByte).length = 0 := by
  rw [← List.nil_append text, Text.takeWhile_isDigitByte (by simp) h]
  rfl

theorem sameReference_braced (inner : List Char) :
    SameReference ('\x7b' :: inner) (referenceAt? (String.ofList ('\x7b' :: inner))) := by
  have hbrace : ∀ d ∈ ('\x7b' :: inner).head?, d.isDigit = false := by simp
  have hslice : slice? (String.ofList ('\x7b' :: inner))
      ⟨1, (String.ofList ('\x7b' :: inner)).utf8ByteSize⟩ = some (String.ofList inner) := by
    have h := slice?_ofList ['\x7b'] inner []
    rwa [List.append_nil] at h
  unfold referenceAt?
  simp only [length_digits_eq_zero hbrace, Nat.lt_irrefl, if_false, String.toList_ofList, hslice,
    Option.bind_eq_bind, Option.bind_some]
  by_cases hclose : '\x7d' ∈ inner
  · obtain ⟨body, after, rfl, hbody⟩ := List.eq_append_cons_of_mem hclose
    have hcut : slice? (String.ofList (body ++ '\x7d' :: after))
        ⟨0, (String.ofList body).utf8ByteSize⟩ = some (String.ofList body) :=
      slice?_ofList [] body ('\x7d' :: after)
    have hreference : reference? ('\x7b' :: (body ++ '\x7d' :: after)) =
        (braced? body).map (·, after) := by
      rw [reference?]
      simp only [takeWhile_ne_append hbody, dropWhile_ne_append hbody]
    have hsize : (String.ofList ('\x7b' :: (body ++ ['\x7d']))).utf8ByteSize =
        (String.ofList body).utf8ByteSize + 2 := by
      rw [Text.utf8ByteSize_ofList_cons, String.ofList_append, String.utf8ByteSize_append]
      change 1 + (_ + 1) = _
      omega
    simp only [Text.indexOf?_append (by decide) hbody, hcut, Option.bind_some, String.toList_ofList]
    cases hpiece : braced? body with
    | none => exact .none (by rw [hreference, hpiece, Option.map_none])
    | some piece =>
      simp only [Option.map_some, ← hsize]
      have htext : '\x7b' :: (body ++ '\x7d' :: after) = '\x7b' :: (body ++ ['\x7d']) ++ after := by
        simp
      exact .some htext (by rw [hreference, hpiece, Option.map_some])
  · simp only [Text.indexOf?_of_notMem (by decide) hclose]
    refine .none ?_
    have hnone : inner.dropWhile (· ≠ '\x7d') = [] :=
      List.dropWhile_eq_nil_iff.mpr fun c hc => decide_eq_true (ne_of_mem_of_not_mem hc hclose)
    rw [reference?]
    simp only [hnone]

theorem sameReference (text : List Char) :
    SameReference text (referenceAt? (String.ofList text)) := by
  have hrest : ∀ d ∈ (text.dropWhile Char.isDigit).head?, d.isDigit = false := fun d hd => by
    have hnot := List.head?_dropWhile_not Char.isDigit text
    rwa [Option.mem_def.mp hd] at hnot
  rcases eq_or_ne (text.takeWhile Char.isDigit) [] with hnil | hne
  · have htext : text.dropWhile Char.isDigit = text := by
      have h := List.takeWhile_append_dropWhile (p := Char.isDigit) (l := text)
      rwa [hnil] at h
    rw [htext] at hrest
    unfold referenceAt?
    simp only [length_digits_eq_zero hrest, Nat.lt_irrefl, if_false, String.toList_ofList]
    split
    · next inner =>
      have h := sameReference_braced inner
      unfold referenceAt? at h
      simpa only [length_digits_eq_zero hrest, Nat.lt_irrefl, if_false, String.toList_ofList]
        using h
    · next hbrace =>
      refine .none ?_
      unfold reference?
      split
      · next inner => exact absurd rfl (hbrace inner)
      · rw [hnil]
        rfl
  · have h := sameReference_digits hne (List.all_eq_true.mp List.all_takeWhile) hrest
    rwa [List.takeWhile_append_dropWhile] at h

theorem pieces_append {front : List Char} (h : '$' ∉ front) (rest : List Char) :
    pieces (front ++ rest) = front.map .char ++ pieces rest := by
  induction front with
  | nil => rfl
  | cons c front ih =>
    obtain ⟨hc, hfront⟩ := List.ne_and_not_mem_of_not_mem_cons h
    rw [List.cons_append, pieces, ih hfront]
    · rfl
    · exact fun hdollar => hc hdollar.symm

theorem pieces_of_none {rest : List Char} (h : reference? rest = none) :
    pieces ('$' :: rest) = .char '$' :: pieces rest := by
  rw [pieces]
  split
  · next hsome =>
    rw [h] at hsome
    contradiction
  · rfl

theorem pieces_of_some {rest after : List Char} {piece : Piece}
    (h : reference? rest = some (piece, after)) : pieces ('$' :: rest) = piece :: pieces after := by
  rw [pieces]
  split
  · next hsome =>
    obtain ⟨rfl, rfl⟩ := Prod.mk.inj (Option.some.inj (h.symm.trans hsome))
    rfl
  · next hnone =>
    rw [h] at hnone
    contradiction

theorem join_map_char (groups : Groups) (text : String) (front : List Char) :
    String.join ((front.map Piece.char).map (Piece.text groups text)) = String.ofList front := by
  rw [← String.toList_inj, String.toList_join, String.toList_ofList, List.map_map,
    List.flatMap_map]
  have htext : ∀ c, (Piece.text groups text (.char c)).toList = [c] :=
    String.toList_singleton
  simp only [Function.comp_def, htext, List.flatMap_singleton']

theorem utf8ByteSize_ofList_append (front rest : List Char) :
    (String.ofList (front ++ rest)).utf8ByteSize =
      (String.ofList front).utf8ByteSize + (String.ofList rest).utf8ByteSize := by
  rw [String.ofList_append, String.utf8ByteSize_append]

/-- From a position between characters on, no slice fails. -/
theorem substituteFrom_eq (groups : Groups) (text : String) (done pending : List Char) :
    substituteFrom (String.ofList (done ++ pending)) groups text (String.ofList done).utf8ByteSize =
      some (String.join ((pieces pending).map (Piece.text groups text))) := by
  induction hlength : pending.length using Nat.strong_induction_on generalizing done pending with
  | h length ih =>
  have hrest : (utf8 (String.ofList (done ++ pending))).drop (String.ofList done).utf8ByteSize =
      utf8 (String.ofList pending) := by
    rw [String.ofList_append, Text.utf8_append]
    exact List.drop_left' (Text.length_utf8 _)
  rw [substituteFrom, hrest]
  by_cases hdollar : '$' ∈ pending
  · obtain ⟨front, rest, rfl, hfront⟩ := List.eq_append_cons_of_mem hdollar
    have hbefore := slice?_ofList done front ('$' :: rest)
    have hafter := slice?_ofList (done ++ front ++ ['$']) rest []
    have hdone : (String.ofList (done ++ front ++ ['$'])).utf8ByteSize =
        (String.ofList done).utf8ByteSize + (String.ofList front).utf8ByteSize + 1 := by
      rw [utf8ByteSize_ofList_append, utf8ByteSize_ofList_append]
      rfl
    have hsplit : done ++ front ++ ['$'] ++ rest = done ++ (front ++ '$' :: rest) := by simp
    rw [utf8ByteSize_ofList_append, List.append_assoc] at hbefore
    rw [List.append_nil, hsplit, hdone] at hafter
    rw [Text.indexOf?_append (by decide) hfront, pieces_append hfront]
    simp only [hbefore, hafter, Option.bind_eq_bind, Option.bind_some]
    have hread := sameReference rest
    generalize referenceAt? (String.ofList rest) = found at hread
    cases hread with
    | none hnone =>
      have hnext := ih rest.length (by simp at hlength; omega) (done ++ front ++ ['$']) rest rfl
      rw [hsplit, hdone] at hnext
      rw [pieces_of_none hnone, List.map_append, String.join_append, join_map_char]
      simp only [hnext, Option.bind_some, List.map_cons, String.join_cons, String.append_assoc]
      rfl
    | @some piece skipped after hskipped hsome =>
      subst hskipped
      have hnext := ih after.length (by simp at hlength; omega)
        (done ++ front ++ ['$'] ++ skipped) after rfl
      rw [List.append_assoc _ skipped, hsplit, utf8ByteSize_ofList_append _ skipped, hdone] at hnext
      rw [pieces_of_some hsome, List.map_append, String.join_append, join_map_char]
      simp only [hnext, Option.bind_some, List.map_cons, String.join_cons, String.append_assoc]
      rfl
  · have hslice := slice?_ofList done pending []
    have hpieces := pieces_append hdollar []
    rw [List.append_nil] at hslice hpieces
    rw [Text.indexOf?_of_notMem (by decide) hdollar, hpieces, pieces, List.append_nil,
      join_map_char]
    exact hslice

theorem substituteBytes_eq (template : String) (groups : Groups) (text : String) :
    substituteBytes template groups text = some (substitute template groups text) := by
  have hfrom : substituteFrom template groups text 0 = some (substitute template groups text) := by
    have h := substituteFrom_eq groups text [] template.toList
    rwa [List.nil_append, String.ofList_toList] at h
  unfold substituteBytes
  split
  · exact hfrom
  · next hnone =>
    have hslice := slice?_ofList [] template.toList []
    rw [List.nil_append, List.append_nil, String.ofList_toList] at hslice
    rw [← hfrom, substituteFrom, List.drop_zero, Option.not_isSome_iff_eq_none.mp hnone]
    exact hslice.symm

-- ---------------------------------------------------------------------------
-- Names
-- ---------------------------------------------------------------------------

theorem pieces_of_forall_none {template : List Char}
    (h : ∀ before rest, template = before ++ '$' :: rest → reference? rest = none) :
    pieces template = template.map .char := by
  induction template with
  | nil => rw [pieces, List.map_nil]
  | cons c rest ih =>
    have ih := ih fun before after hrest => h (c :: before) after (congrArg _ hrest)
    by_cases hc : c = '$'
    · subst hc
      rw [pieces_of_none (h [] rest rfl), ih, List.map_cons]
    · rw [← List.singleton_append, pieces_append (by simpa using Ne.symm hc), ih, List.map_append]

/-- A name is cut from left to right into references and other characters, in the one way there is.
The text of the groups takes the place of the references and nothing else changes, so that a name
without references stays as it is; by positions of bytes the same comes out, and each slice that is
taken of the name is one. -/
theorem substitute_cuts (template : String) (groups : Groups) (text : String) :
    (∃ l, (Aligned l ∧ written l = template.toList) ∧
      ∀ other, Aligned other ∧ written other = template.toList → other = l) ∧
    (∀ part, substitute template groups text = part ↔
      ∃ l texts, Aligned l ∧ written l = template.toList ∧
        List.Forall₂ (Item.Becomes groups text) l texts ∧ String.join texts = part) ∧
    ((∀ before rest, template.toList = before ++ '$' :: rest →
        ∀ (ref : Reference) after, ¬ ref.Begins rest after) →
      substitute template groups text = template) ∧
    substituteBytes template groups text = some (substitute template groups text) := by
  obtain ⟨l, haligned, hwritten, hpieces⟩ := exists_aligned template.toList
  refine ⟨⟨l, ⟨haligned, hwritten⟩, fun other h => ?_⟩, fun part => substitute_eq_iff,
    fun hnone => ?_, substituteBytes_eq template groups text⟩
  · exact h.1.unique haligned (h.2.trans hwritten.symm)
  · have hpieces := pieces_of_forall_none fun before rest hrest =>
      reference?_eq_none_iff.mpr (hnone before rest hrest)
    rw [substitute, hpieces, join_map_char, String.ofList_toList]

end NameTemplate

end LineScopes
