import LineScopes.Proofs.Slicing

/-!
# Reading bytes as text

The bytes of a text are read as that text. Only where bytes do not come from a
text as a whole, which is where a span cuts a character, does a replacement
character stand for some of them.
-/

namespace LineScopes.Text

-- ---------------------------------------------------------------------------
-- Characters
-- ---------------------------------------------------------------------------

/-- A byte that continues a character, with six bits of its code point. -/
def tailByte (bits : Nat) : UInt8 := UInt8.ofNat (bits % 64 + 128)

theorem toNat_tailByte (bits : Nat) : (tailByte bits).toNat = bits % 64 + 128 := by
  refine UInt8.toNat_ofNat_of_lt' ?_
  change _ < 256
  omega

theorem continuation_zero (lo hi : UInt8) (code : Nat) (rest : List UInt8) :
    continuation lo hi 0 code rest = (some code, rest) := by
  cases rest <;> rfl

theorem continuation_succ {lo hi : UInt8} (hlo : lo.toNat ≤ bits % 64 + 128)
    (hhi : bits % 64 + 128 ≤ hi.toNat) (count code : Nat) (rest : List UInt8) :
    continuation lo hi (count + 1) code (tailByte bits :: rest) =
      continuation 0x80 0xBF count (64 * code + bits % 64) rest := by
  rw [← toNat_tailByte] at hlo hhi
  rw [continuation, if_pos ⟨UInt8.le_iff_toNat_le.mpr hlo, UInt8.le_iff_toNat_le.mpr hhi⟩,
    toNat_tailByte, Nat.add_sub_cancel]

theorem continuation_tail (count code bits : Nat) (rest : List UInt8) :
    continuation 0x80 0xBF (count + 1) code (tailByte bits :: rest) =
      continuation 0x80 0xBF count (64 * code + bits % 64) rest :=
  continuation_succ (Nat.le_add_left ..) (by change _ ≤ 191; omega) count code rest

theorem leadByte_one : ∀ n < 128, leadByte (UInt8.ofNat n) = some (n, 0, 0x80, 0xBF) := by decide

theorem leadByte_two : ∀ n < 30,
    leadByte (UInt8.ofNat (n + 2 + 192)) = some (n + 2, 1, 0x80, 0xBF) := by decide

theorem leadByte_three : ∀ n < 16, leadByte (UInt8.ofNat (n + 224)) =
    some (n, 2, if n = 0 then 0xA0 else 0x80, if n = 13 then 0x9F else 0xBF) := by decide

theorem leadByte_four : ∀ n < 5, leadByte (UInt8.ofNat (n + 240)) =
    some (n, 3, if n = 0 then 0x90 else 0x80, if n = 4 then 0x8F else 0xBF) := by decide

theorem decodeChar_utf8EncodeChar (c : Char) (rest : List UInt8) :
    ∃ first others, String.utf8EncodeChar c = first :: others ∧
      decodeChar first (others ++ rest) = (c, rest) := by
  have hvalid : c.val.toNat.isValidChar := c.valid
  have hof : Char.ofNat c.val.toNat = c := Char.ofNat_toNat c
  unfold String.utf8EncodeChar
  generalize c.val.toNat = v at hvalid hof
  have hbound : v < 0xD800 ∨ 0xDFFF < v ∧ v < 0x110000 := hvalid
  simp only
  split
  · refine ⟨_, [], rfl, ?_⟩
    rw [decodeChar, leadByte_one v (by omega)]
    simp [continuation, hof]
  split
  · refine ⟨_, [tailByte v], rfl, ?_⟩
    have hlead := leadByte_two (v / 64 % 32 - 2) (by omega)
    rw [Nat.sub_add_cancel (by omega)] at hlead
    have hcode : 64 * (v / 64 % 32) + v % 64 = v := by omega
    rw [decodeChar, hlead]
    simp only [List.cons_append, List.nil_append, continuation_tail, hcode, continuation_zero,
      hof]
  split
  · refine ⟨_, [tailByte (v / 64), tailByte v], rfl, ?_⟩
    rw [decodeChar, leadByte_three (v / 4096 % 16) (by omega)]
    have hlo : (if v / 4096 % 16 = 0 then 0xA0 else 0x80 : UInt8).toNat ≤ v / 64 % 64 + 128 := by
      split
      · change 160 ≤ _
        omega
      · exact Nat.le_add_left ..
    have hhi : v / 64 % 64 + 128 ≤ (if v / 4096 % 16 = 13 then 0x9F else 0xBF : UInt8).toNat := by
      split
      · change _ ≤ 159
        omega
      · change _ ≤ 191
        omega
    have hcode : 64 * (64 * (v / 4096 % 16) + v / 64 % 64) + v % 64 = v := by omega
    simp only [List.cons_append, List.nil_append, continuation_succ hlo hhi, continuation_tail,
      hcode, continuation_zero, hof]
  · refine ⟨_, [tailByte (v / 4096), tailByte (v / 64), tailByte v], rfl, ?_⟩
    rw [decodeChar, leadByte_four (v / 262144 % 8) (by omega)]
    have hlo : (if v / 262144 % 8 = 0 then 0x90 else 0x80 : UInt8).toNat ≤
        v / 4096 % 64 + 128 := by
      split
      · change 144 ≤ _
        omega
      · exact Nat.le_add_left ..
    have hhi : v / 4096 % 64 + 128 ≤
        (if v / 262144 % 8 = 4 then 0x8F else 0xBF : UInt8).toNat := by
      split
      · change _ ≤ 143
        omega
      · change _ ≤ 191
        omega
    have hcode : 64 * (64 * (64 * (v / 262144 % 8) + v / 4096 % 64) + v / 64 % 64) + v % 64 =
        v := by omega
    simp only [List.cons_append, List.nil_append, continuation_succ hlo hhi, continuation_tail,
      hcode, continuation_zero, hof]

-- ---------------------------------------------------------------------------
-- Texts
-- ---------------------------------------------------------------------------

theorem utf8_ofList (chars : List Char) :
    utf8 (String.ofList chars) = chars.flatMap String.utf8EncodeChar := by
  unfold utf8
  rw [String.toUTF8_eq_toByteArray, String.toByteArray_ofList, List.utf8Encode]
  simp

theorem decodeLossy_utf8 (text : String) : decodeLossy (utf8 text) = text := by
  have hchars : ∀ chars : List Char,
      decodeLossyChars (chars.flatMap String.utf8EncodeChar) = chars := by
    intro chars
    induction chars with
    | nil => rw [List.flatMap_nil, decodeLossyChars]
    | cons c chars ih =>
      obtain ⟨first, others, hbytes, hchar⟩ :=
        decodeChar_utf8EncodeChar c (chars.flatMap String.utf8EncodeChar)
      rw [List.flatMap_cons, hbytes, List.cons_append, decodeLossyChars, hchar, ih]
  have htext : utf8 text = text.toList.flatMap String.utf8EncodeChar := by
    rw [← utf8_ofList, String.ofList_toList]
  rw [decodeLossy, htext, hchars, String.ofList_toList]

/-- The bytes of a span, with those before and after it. -/
theorem bytes?_eq_some_iff {text : String} {span : Span} {bytes : List UInt8} :
    bytes? text span = some bytes ↔ ∃ before after, utf8 text = before ++ bytes ++ after ∧
      before.length = span.start ∧ span.start + bytes.length = span.stop := by
  simp only [bytes?]
  constructor
  · intro h
    split at h
    · next hspan =>
      obtain rfl := Option.some.inj h
      refine ⟨(utf8 text).take span.start, (utf8 text).drop span.stop, ?_, ?_, ?_⟩
      · have hdrop : (utf8 text).drop span.stop =
            ((utf8 text).drop span.start).drop (span.stop - span.start) := by
          rw [List.drop_drop, Nat.add_sub_cancel' hspan.1]
        rw [hdrop, List.append_assoc, List.take_append_drop, List.take_append_drop]
      · rw [List.length_take]
        omega
      · rw [List.length_take, List.length_drop]
        omega
    · contradiction
  · rintro ⟨before, after, htext, hstart, hstop⟩
    have hsize : (utf8 text).length = before.length + bytes.length + after.length := by
      rw [htext, List.length_append, List.length_append]
    rw [if_pos (by omega), htext, List.append_assoc, List.drop_left' hstart,
      List.take_left' (by omega)]

end LineScopes.Text
