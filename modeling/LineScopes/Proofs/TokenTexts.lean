import LineScopes.Proofs.FirstDifference

/-!
# Values against texts of tokens

Validation compares the bytes of a token with the bytes of the expected value,
while the text of a token is a slice of its line. Bytes that are a text of
their own begin and end between characters, so that both agree, with one
exception: no bytes at all are a text wherever they are taken from, also from
between the bytes of one character.
-/

namespace LineScopes

namespace Text

-- ---------------------------------------------------------------------------
-- Bytes and boundaries
-- ---------------------------------------------------------------------------

theorem isBoundary_iff_isValid {text : String} {n : Nat} :
    IsBoundary text n ↔ String.Pos.Raw.IsValid text ⟨n⟩ := by
  rw [String.Pos.Raw.isValid_iff_exists_append]
  simp only [IsBoundary, String.Pos.Raw.ext_iff, String.byteIdx_rawEndPos, eq_comm]

variable {text part : String} {span : Span}

theorem le_of_bytes?_eq_some (h : bytes? text span = some bytes) :
    span.start ≤ span.stop ∧ span.stop ≤ text.utf8ByteSize := by
  obtain ⟨before, after, htext, hstart, hstop⟩ := bytes?_eq_some_iff.mp h
  have hsize := congrArg List.length htext
  rw [length_utf8, List.length_append, List.length_append] at hsize
  omega

theorem extract_of_bytes? (h : bytes? text span = some (utf8 part)) :
    text.toByteArray.extract span.start span.stop = part.toByteArray := by
  obtain ⟨before, after, htext, hstart, hstop⟩ := bytes?_eq_some_iff.mp h
  have htext : text.toByteArray.data.toList = before ++ utf8 part ++ after := htext
  apply ByteArray.ext
  rw [ByteArray.data_extract, ← Array.toList_inj, Array.toList_extract, List.extract_eq_take_drop,
    htext, List.append_assoc, List.drop_left' hstart, List.take_left' (by omega)]
  rfl

theorem isBoundary_of_bytes? (h : bytes? text span = some (utf8 part))
    (hne : span.start ≠ span.stop) :
    IsBoundary text span.start ∧ IsBoundary text span.stop := by
  obtain ⟨hle, hsize⟩ := le_of_bytes?_eq_some h
  have hvalid : (text.toByteArray.extract span.start span.stop).IsValidUTF8 :=
    extract_of_bytes? h ▸ part.isValidUTF8
  rcases (String.Pos.Raw.isValidUTF8_extract_iff ⟨span.start⟩ ⟨span.stop⟩ hle hsize).mp hvalid with
    heq | ⟨hstart, hstop⟩
  · exact absurd (congrArg String.Pos.Raw.byteIdx heq) hne
  · exact ⟨isBoundary_iff_isValid.mpr hstart, isBoundary_iff_isValid.mpr hstop⟩

theorem slice?_eq_none_iff : slice? text span = none ↔ span.stop < span.start ∨
    ¬ IsBoundary text span.start ∨ ¬ IsBoundary text span.stop := by
  constructor
  · intro hnone
    by_contra hends
    simp only [not_or, Nat.not_lt, not_not] at hends
    obtain ⟨hle, hstart, hstop⟩ := hends
    have hsome := hstart.slice?_isSome hstop hle
    rw [hnone] at hsome
    contradiction
  · intro hends
    refine Option.eq_none_iff_forall_ne_some.mpr fun part hpart => ?_
    obtain ⟨before, after, rfl, hstart, hstop⟩ := slice?_eq_some hpart
    rcases hends with hlt | hstart' | hstop'
    · omega
    · exact hstart' ⟨before, part ++ after, String.append_assoc .., hstart⟩
    · exact hstop' ⟨before ++ part, after, rfl, by rw [String.utf8ByteSize_append, hstop]⟩

/-- The bytes of a span are those of a text if the text is the slice, or if there are none and the
span lies within a character. -/
theorem bytes?_eq_some_utf8_iff : bytes? text span = some (utf8 part) ↔
    slice? text span = some part ∨ part = "" ∧ span.start = span.stop ∧
      span.stop ≤ text.utf8ByteSize ∧ ¬ IsBoundary text span.start := by
  constructor
  · intro h
    obtain ⟨hle, hsize⟩ := le_of_bytes?_eq_some h
    cases hslice : slice? text span with
    | some other =>
      have hbytes : some (utf8 other) = some (utf8 part) := (bytes?_eq_some hslice).symm.trans h
      exact .inl (congrArg some (utf8_inj.mp (Option.some.inj hbytes)))
    | none =>
      have hends := slice?_eq_none_iff.mp hslice
      have heq : span.start = span.stop := by
        by_contra hne
        obtain ⟨hstart, hstop⟩ := isBoundary_of_bytes? h hne
        exact hends.elim (Nat.not_lt.mpr hle) (·.elim (· hstart) (· hstop))
      obtain ⟨before, after, -, -, hstop⟩ := bytes?_eq_some_iff.mp h
      rw [length_utf8] at hstop
      refine .inr ⟨String.utf8ByteSize_eq_zero_iff.mp (by omega), heq, hsize, fun hstart => ?_⟩
      exact hends.elim (Nat.not_lt.mpr hle) (·.elim (· hstart) (· (heq ▸ hstart)))
  · rintro (hslice | ⟨rfl, heq, hsize, -⟩)
    · exact bytes?_eq_some hslice
    · refine bytes?_eq_some_iff.mpr
        ⟨(utf8 text).take span.start, (utf8 text).drop span.start, ?_, ?_, heq⟩
      · change utf8 text = _ ++ [] ++ _
        rw [List.append_nil, List.take_append_drop]
      · rw [List.length_take, length_utf8]
        omega

end Text

-- ---------------------------------------------------------------------------
-- Tokens
-- ---------------------------------------------------------------------------

/-- The token has no bytes, and stands between two bytes of one character of the line. -/
def Token.SplitsChar (token : Token) (line : String) : Prop :=
  token.span.start = token.span.stop ∧ token.span.stop ≤ line.utf8ByteSize ∧
    ¬ Text.IsBoundary line token.span.start

theorem Token.hasValue_iff_text? {token : Token} {line value : String} :
    token.hasValue line value ↔
      token.text? line = some value ∨ value = "" ∧ token.SplitsChar line := by
  rw [hasValue, decide_eq_true_iff]
  exact Text.bytes?_eq_some_utf8_iff

theorem Token.text?_of_splitsChar {token : Token} {line : String} (h : token.SplitsChar line) :
    token.text? line = none :=
  Text.slice?_eq_none_iff.mpr (.inr (.inl h.2.2))

theorem validateLine_eq_tokenValue_iff {line : String} {actual : List Token}
    {expected : List ExpectedToken} {index : Nat} {token : Token} {wanted : ExpectedToken}
    (hlength : actual.length = expected.length) (htoken : actual[index]? = some token)
    (hwanted : expected[index]? = some wanted)
    (hbefore : ∀ i < index, ∀ earlier other, actual[i]? = some earlier →
      expected[i]? = some other → Token.Meets earlier line other) :
    (∃ shown, validateLine line actual expected =
      .error (.tokenValue index wanted.value shown)) ↔ ¬ token.hasValue line wanted.value := by
  constructor
  · rintro ⟨shown, herror⟩ hvalue
    have hunmet : ¬ AsExpected line actual expected := fun h => by
      rw [h.validateLine] at herror
      cases herror
    obtain ⟨mismatch, htells⟩ := exists_tells hunmet
    rw [htells.validateLine] at herror
    obtain rfl := Except.error.inj herror
    generalize wanted.value = value at htells
    cases htells with
    | value hfirst hspans =>
      obtain rfl := Option.some.inj (hfirst.actualAt.symm.trans htoken)
      obtain rfl := Option.some.inj (hfirst.expectedAt.symm.trans hwanted)
      exact hspans (Token.hasValue_iff.mp hvalue)
  · intro hvalue
    have hspans : ¬ token.Spans line (Text.utf8 wanted.value) :=
      fun h => hvalue (Token.hasValue_iff.mpr h)
    have hfirst : FirstUnmet line actual expected index token wanted :=
      ⟨hlength, htoken, hwanted, hbefore, fun hmeets => hspans hmeets.value⟩
    exact ⟨_, hfirst.validateLine (validateTokens_value hspans index)⟩

/-- A token that is looked at is rejected for its value exactly if the value is not its text. Only
where no bytes are expected of a token that splits a character is it accepted without a text: it
has none then, as little as any other token that is out of range or cuts a character. -/
theorem validateLine_agrees_text? {line : String} {actual : List Token}
    {expected : List ExpectedToken} {index : Nat} {token : Token} {wanted : ExpectedToken}
    (hlength : actual.length = expected.length) (htoken : actual[index]? = some token)
    (hwanted : expected[index]? = some wanted)
    (hbefore : ∀ i < index, ∀ earlier other, actual[i]? = some earlier →
      expected[i]? = some other → Token.Meets earlier line other) :
    (((∃ shown, validateLine line actual expected =
          .error (.tokenValue index wanted.value shown)) ↔
        token.text? line ≠ some wanted.value) ↔
      ¬ (wanted.value = "" ∧ token.SplitsChar line)) ∧
    (token.text? line = none ↔ token.span.stop < token.span.start ∨
      ¬ Text.IsBoundary line token.span.start ∨ ¬ Text.IsBoundary line token.span.stop) := by
  refine ⟨?_, Text.slice?_eq_none_iff⟩
  rw [validateLine_eq_tokenValue_iff hlength htoken hwanted hbefore, Token.hasValue_iff_text?]
  constructor
  · rintro hagrees ⟨hempty, hsplits⟩
    have hnone : token.text? line ≠ some wanted.value := by
      rw [Token.text?_of_splitsChar hsplits]
      exact (Option.some_ne_none _).symm
    exact hagrees.mpr hnone (.inr ⟨hempty, hsplits⟩)
  · intro hsplits
    rw [or_iff_left hsplits]

/-- The second token is the second byte of `é`. -/
theorem validateLine_agrees_text?_cut :
    let actual : List Token := [⟨0, 2, []⟩, ⟨1, 1, []⟩]
    let expected : List ExpectedToken := [{ value := "é" }, { value := "" }]
    ∃ shown, validateLine "éa" actual expected = .error (.tokenValue 1 "" shown) := by
  intro actual expected
  have htoken : actual[1]? = some ⟨1, 1, []⟩ := rfl
  have hwanted : expected[1]? = some { value := "" } := rfl
  have hmeets : ∀ i < 1, ∀ earlier other, actual[i]? = some earlier → expected[i]? = some other →
      earlier.Meets "éa" other := by
    intro i hi earlier other hearlier hother
    obtain rfl := Nat.lt_one_iff.mp hi
    cases hearlier
    cases hother
    exact ⟨Token.hasValue_iff.mp (by decide +kernel), rfl⟩
  obtain ⟨hagrees, -⟩ := validateLine_agrees_text? rfl htoken hwanted hmeets
  have hnot : ¬ ((⟨1, 1, []⟩ : Token).SplitsChar "éa") := fun h => absurd h.1 (by decide)
  exact (hagrees.mpr fun h => hnot h.2).mpr (by decide +kernel)

/-- No bytes are expected, and none are taken from within `é`, where the token has no text. -/
theorem splitting_accepted :
    (validateLine "é" [⟨1, 0, []⟩] [{ value := "" }] = .ok ()) ∧
    (⟨1, 0, []⟩ : Token).text? "é" = none ∧
    ¬ ∀ (token : Token) (line value : String),
      token.hasValue line value ↔ token.text? line = some value := by
  have hvalue : (⟨1, 0, []⟩ : Token).hasValue "é" "" = true := by decide +kernel
  have hnone : (⟨1, 0, []⟩ : Token).text? "é" = none := by decide +kernel
  refine ⟨by rfl, hnone, fun hall => ?_⟩
  have htext := (hall ⟨1, 0, []⟩ "é" "").mp hvalue
  rw [hnone] at htext
  contradiction

end LineScopes
