import LineScopes.Proofs.Decoding
import LineScopes.Validation
import Mathlib.Data.Nat.Find

/-!
# The first difference between tokens and what is expected

The tokens of a line are accepted exactly if there are as many as expected,
and each of them has the bytes and the scopes that are expected there. If they
are not accepted, the report tells the first difference: of the counts, or else
of the first token that differs, of its text or else of its scopes.
-/

namespace LineScopes

-- ---------------------------------------------------------------------------
-- Scopes
-- ---------------------------------------------------------------------------

/-- The longest list that two lists begin with. -/
structure IsCommonPrefix (common first second : List α) : Prop where
  left : common <+: first
  right : common <+: second
  longest : ∀ other, other <+: first → other <+: second → other.length ≤ common.length

theorem exists_commonPrefix [DecidableEq α] (first second : List α) :
    ∃ common, IsCommonPrefix common first second := by
  induction first generalizing second with
  | nil =>
    refine ⟨[], List.nil_prefix, List.nil_prefix, fun other hother _ => ?_⟩
    rw [List.prefix_nil.mp hother]
  | cons a first ih =>
    cases second with
    | nil =>
      refine ⟨[], List.nil_prefix, List.nil_prefix, fun other _ hother => ?_⟩
      rw [List.prefix_nil.mp hother]
    | cons b second =>
      by_cases hab : a = b
      · subst hab
        obtain ⟨common, hcommon⟩ := ih second
        refine ⟨a :: common, (List.prefix_cons_inj a).mpr hcommon.left,
          (List.prefix_cons_inj a).mpr hcommon.right, fun other hfirst hsecond => ?_⟩
        cases other with
        | nil => exact Nat.zero_le _
        | cons c other =>
          have hfirst := (List.cons_prefix_cons.mp hfirst).2
          have hsecond := (List.cons_prefix_cons.mp hsecond).2
          exact Nat.succ_le_succ (hcommon.longest other hfirst hsecond)
      · refine ⟨[], List.nil_prefix, List.nil_prefix, fun other hfirst hsecond => ?_⟩
        cases other with
        | nil => exact Nat.le_refl _
        | cons c other =>
          have hca := (List.cons_prefix_cons.mp hfirst).1
          have hcb := (List.cons_prefix_cons.mp hsecond).1
          exact absurd (hca.symm.trans hcb) hab

theorem IsCommonPrefix.ne {common first second : List α} (h : IsCommonPrefix common first second)
    (hfirst : first[common.length]? = some a) (hsecond : second[common.length]? = some b) :
    a ≠ b := by
  rintro rfl
  have hlonger : ∀ {list : List α}, common <+: list → list[common.length]? = some a →
      common ++ [a] <+: list := by
    rintro _ ⟨rest, rfl⟩ ha
    rw [List.getElem?_append_right (Nat.le_refl _), Nat.sub_self] at ha
    cases rest with
    | nil => cases ha
    | cons b rest =>
      obtain rfl : b = a := Option.some.inj ha
      exact ⟨rest, by simp⟩
  have hle := h.longest _ (hlonger h.left hfirst) (hlonger h.right hsecond)
  rw [List.length_append] at hle
  exact absurd hle (Nat.not_succ_le_self _)

theorem compareScopesFrom_append (position : Nat) (common expected actual : List String) :
    compareScopesFrom position (common ++ expected) (common ++ actual) =
      compareScopesFrom (position + common.length) expected actual := by
  induction common generalizing position with
  | nil => rfl
  | cons scope common ih =>
    rw [List.cons_append, List.cons_append, compareScopesFrom, if_pos rfl, ih, List.length_cons,
      Nat.add_assoc, Nat.add_comm 1]

theorem compareScopes_eq {expected actual common : List String}
    (h : IsCommonPrefix common expected actual) :
    compareScopes expected actual =
      match expected[common.length]?, actual[common.length]? with
      | none, none => .equal
      | some missing, none => .actualExhausted common.length missing
      | none, some extra => .expectedExhausted common.length extra
      | some expected, some actual => .differ common.length expected actual := by
  have hne := fun a b => h.ne (a := a) (b := b)
  obtain ⟨expected, rfl⟩ := h.left
  obtain ⟨actual, rfl⟩ := h.right
  have hnext : ∀ rest : List String, (common ++ rest)[common.length]? = rest.head? := by
    intro rest
    rw [List.getElem?_append_right (Nat.le_refl _), Nat.sub_self, List.head?_eq_getElem?]
  simp only [hnext] at hne ⊢
  rw [compareScopes, compareScopesFrom_append, Nat.zero_add]
  cases expected with
  | nil => cases actual <;> rfl
  | cons e expected =>
    cases actual with
    | nil => rfl
    | cons a actual => exact if_neg (hne e a rfl rfl)

-- ---------------------------------------------------------------------------
-- Tokens
-- ---------------------------------------------------------------------------

/-- The bytes of the line from the token's offset up to its end are there, and are these. The end
is a number of 64 bits. -/
def Token.Spans (token : Token) (line : String) (bytes : List UInt8) : Prop :=
  ∃ before after, Text.utf8 line = before ++ bytes ++ after ∧ before.length = token.offset ∧
    token.offset + bytes.length = min (token.offset + token.length) maxOffset

theorem Token.spans_iff {token : Token} {line : String} {bytes : List UInt8} :
    token.Spans line bytes ↔ Text.bytes? line token.span = some bytes := by
  rw [Text.bytes?_eq_some_iff]
  rfl

theorem Token.hasValue_iff {token : Token} {line value : String} :
    token.hasValue line value ↔ token.Spans line (Text.utf8 value) := by
  rw [hasValue, decide_eq_true_iff, spans_iff]

/-- The token is the one that is expected. Expected scopes are listed the other way round. -/
structure Token.Meets (token : Token) (line : String) (expected : ExpectedToken) : Prop where
  value : token.Spans line (Text.utf8 expected.value)
  scopes : token.scopes = expected.scopes.reverse

theorem Token.shown_of_text {token : Token} {line : String} (h : token.text? line = some part) :
    token.shown line = part := by
  have hbytes : Text.bytes? line token.span = some (Text.utf8 part) := Text.bytes?_eq_some h
  rw [shown, hbytes]
  exact Text.decodeLossy_utf8 part

theorem Token.shown_of_outside {token : Token} {line : String}
    (h : ∀ bytes, ¬ token.Spans line bytes) : token.shown line = "<out of range>" := by
  have hnone : Text.bytes? line token.span = none :=
    Option.eq_none_iff_forall_ne_some.mpr fun bytes hbytes => h bytes (spans_iff.mpr hbytes)
  rw [shown, hnone]

/-- The tokens are those that are expected, one by one. -/
def AsExpected (line : String) (actual : List Token) (expected : List ExpectedToken) : Prop :=
  actual.length = expected.length ∧ ∀ (i : Nat) token wanted, actual[i]? = some token →
    expected[i]? = some wanted → Token.Meets token line wanted

/-- As many tokens as expected, of which this is the first that is not the one expected. -/
structure FirstUnmet (line : String) (actual : List Token) (expected : List ExpectedToken)
    (index : Nat) (token : Token) (wanted : ExpectedToken) : Prop where
  length : actual.length = expected.length
  actualAt : actual[index]? = some token
  expectedAt : expected[index]? = some wanted
  before : ∀ i < index, ∀ earlier other, actual[i]? = some earlier → expected[i]? = some other →
    Token.Meets earlier line other
  unmet : ¬ Token.Meets token line wanted

/-- The first difference between the tokens of a line and what is expected. -/
inductive Mismatch.Tells (line : String) (actual : List Token) (expected : List ExpectedToken) :
    Mismatch → Prop
  /-- The first expected token that there is no token for. -/
  | tokensMissing {left} : expected[actual.length]? = some left →
      Tells line actual expected
        (.tokenCount expected.length actual.length .expected left.value)
  /-- The first token that is not expected. -/
  | tokensLeft {left} : actual[expected.length]? = some left →
      Tells line actual expected
        (.tokenCount expected.length actual.length .actual (left.shown line))
  | value {index token wanted} : FirstUnmet line actual expected index token wanted →
      ¬ token.Spans line (Text.utf8 wanted.value) →
      Tells line actual expected (.tokenValue index wanted.value (token.shown line))
  | scope {index token wanted common e a} : FirstUnmet line actual expected index token wanted →
      token.Spans line (Text.utf8 wanted.value) →
      IsCommonPrefix common wanted.scopes.reverse token.scopes →
      wanted.scopes.reverse[common.length]? = some e → token.scopes[common.length]? = some a →
      Tells line actual expected (.scope index common.length e a)
  | missingScope {index token wanted common e} :
      FirstUnmet line actual expected index token wanted →
      token.Spans line (Text.utf8 wanted.value) →
      IsCommonPrefix common wanted.scopes.reverse token.scopes →
      wanted.scopes.reverse[common.length]? = some e → token.scopes[common.length]? = none →
      Tells line actual expected (.missingScope index common.length e)
  | extraScope {index token wanted common a} :
      FirstUnmet line actual expected index token wanted →
      token.Spans line (Text.utf8 wanted.value) →
      IsCommonPrefix common wanted.scopes.reverse token.scopes →
      wanted.scopes.reverse[common.length]? = none → token.scopes[common.length]? = some a →
      Tells line actual expected (.extraScope index common.length a)

-- ---------------------------------------------------------------------------
-- Validation
-- ---------------------------------------------------------------------------

section

variable {line : String} {token : Token} {wanted : ExpectedToken} {actual : List Token}
  {expected : List ExpectedToken} {mismatch : Mismatch}

theorem validateScopes_reverse (index : Nat) (scopes : List String) :
    validateScopes index scopes scopes.reverse = .ok () := by
  have hsame : IsCommonPrefix scopes.reverse scopes.reverse scopes.reverse :=
    ⟨List.prefix_refl _, List.prefix_refl _, fun _ h _ => h.length_le⟩
  have hend : scopes.reverse[scopes.reverse.length]? = none :=
    List.getElem?_eq_none (Nat.le_refl _)
  rw [validateScopes, compareScopes_eq hsame, hend]

theorem Token.Meets.validateTokens_cons (h : token.Meets line wanted) (index : Nat)
    (tokens : List Token) (rest : List ExpectedToken) :
    validateTokens line index (token :: tokens) (wanted :: rest) =
      validateTokens line (index + 1) tokens rest := by
  have hvalue : token.hasValue line wanted.value := Token.hasValue_iff.mpr h.value
  rw [validateTokens, if_neg (not_not_intro hvalue), h.scopes, validateScopes_reverse]
  rfl

theorem validateTokens_ok (index : Nat) (h : ∀ (i : Nat) token wanted, actual[i]? = some token →
    expected[i]? = some wanted → Token.Meets token line wanted) :
    validateTokens line index actual expected = .ok () := by
  induction actual generalizing index expected with
  | nil => rfl
  | cons token actual ih =>
    cases expected with
    | nil => rfl
    | cons wanted expected =>
      rw [(h 0 token wanted rfl rfl).validateTokens_cons]
      exact ih (index + 1) fun i => h (i + 1)

theorem validateTokens_skip (first index : Nat) (htoken : actual[index]? = some token)
    (hwanted : expected[index]? = some wanted)
    (hbefore : ∀ i < index, ∀ earlier other, actual[i]? = some earlier →
      expected[i]? = some other → Token.Meets earlier line other) :
    ∃ tokens rest, validateTokens line first actual expected =
      validateTokens line (first + index) (token :: tokens) (wanted :: rest) := by
  induction index generalizing first actual expected with
  | zero =>
    cases actual with
    | nil => cases htoken
    | cons head tokens =>
      cases expected with
      | nil => cases hwanted
      | cons other rest =>
        cases htoken
        cases hwanted
        exact ⟨tokens, rest, rfl⟩
  | succ index ih =>
    cases actual with
    | nil => cases htoken
    | cons head actual =>
      cases expected with
      | nil => cases hwanted
      | cons other expected =>
        obtain ⟨tokens, rest, heq⟩ := ih (first + 1) htoken hwanted fun i hi =>
          hbefore (i + 1) (Nat.succ_lt_succ hi)
        have hmeets : head.Meets line other := hbefore 0 (Nat.succ_pos _) head other rfl rfl
        refine ⟨tokens, rest, ?_⟩
        rw [hmeets.validateTokens_cons, heq, Nat.add_assoc, Nat.add_comm 1]

theorem validateTokens_value (h : ¬ token.Spans line (Text.utf8 wanted.value)) (index : Nat)
    (tokens : List Token) (rest : List ExpectedToken) :
    validateTokens line index (token :: tokens) (wanted :: rest) =
      .error (.tokenValue index wanted.value (token.shown line)) := by
  have hvalue : ¬ token.hasValue line wanted.value := fun hvalue => h (Token.hasValue_iff.mp hvalue)
  rw [validateTokens, if_pos hvalue]
  rfl

theorem validateTokens_scopes (hvalue : token.Spans line (Text.utf8 wanted.value)) {index : Nat}
    (hscopes : validateScopes index wanted.scopes token.scopes = .error mismatch)
    (tokens : List Token) (rest : List ExpectedToken) :
    validateTokens line index (token :: tokens) (wanted :: rest) = .error mismatch := by
  have hvalue : token.hasValue line wanted.value := Token.hasValue_iff.mpr hvalue
  rw [validateTokens, if_neg (not_not_intro hvalue), hscopes]
  rfl

theorem validateLine_of_length (h : actual.length = expected.length) :
    validateLine line actual expected = validateTokens line 0 actual expected := by
  rw [validateLine, List.drop_of_length_le (Nat.le_of_eq h.symm),
    List.drop_of_length_le (Nat.le_of_eq h)]

theorem AsExpected.validateLine (h : AsExpected line actual expected) :
    validateLine line actual expected = .ok () :=
  (validateLine_of_length h.1).trans (validateTokens_ok 0 h.2)

theorem FirstUnmet.validateLine (h : FirstUnmet line actual expected index token wanted)
    (hhead : ∀ tokens rest, validateTokens line index (token :: tokens) (wanted :: rest) =
      .error mismatch) : validateLine line actual expected = .error mismatch := by
  obtain ⟨tokens, rest, heq⟩ := validateTokens_skip 0 index h.actualAt h.expectedAt h.before
  rw [validateLine_of_length h.length, heq, Nat.zero_add]
  exact hhead tokens rest

theorem Mismatch.Tells.validateLine (h : mismatch.Tells line actual expected) :
    validateLine line actual expected = .error mismatch := by
  cases h with
  | @tokensMissing left hleft =>
    obtain ⟨hlt, rfl⟩ := List.getElem?_eq_some_iff.mp hleft
    rw [LineScopes.validateLine, List.drop_eq_getElem_cons hlt]
  | @tokensLeft left hleft =>
    obtain ⟨hlt, rfl⟩ := List.getElem?_eq_some_iff.mp hleft
    rw [LineScopes.validateLine, List.drop_of_length_le (Nat.le_of_lt hlt),
      List.drop_eq_getElem_cons hlt]
  | value hfirst hvalue => exact hfirst.validateLine (validateTokens_value hvalue _)
  | scope hfirst hvalue hcommon he ha | missingScope hfirst hvalue hcommon he ha
  | extraScope hfirst hvalue hcommon he ha =>
    refine hfirst.validateLine (validateTokens_scopes hvalue ?_)
    rw [validateScopes, compareScopes_eq hcommon, he, ha]

theorem exists_firstUnmet (hlength : actual.length = expected.length)
    (h : ¬ AsExpected line actual expected) :
    ∃ index token wanted, FirstUnmet line actual expected index token wanted := by
  classical
  have hunmet : ∃ (i : Nat) (token : Token) (wanted : ExpectedToken), actual[i]? = some token ∧
      expected[i]? = some wanted ∧ ¬ token.Meets line wanted := by
    by_contra hnone
    refine h ⟨hlength, fun i token wanted hactual hexpected => ?_⟩
    by_contra hnot
    exact hnone ⟨i, token, wanted, hactual, hexpected, hnot⟩
  obtain ⟨token, wanted, hactual, hexpected, hnot⟩ := Nat.find_spec hunmet
  refine ⟨Nat.find hunmet, token, wanted, hlength, hactual, hexpected, ?_, hnot⟩
  intro i hi earlier other hearlier hother
  by_contra hnot
  exact Nat.find_min hunmet hi ⟨earlier, other, hearlier, hother, hnot⟩

/-- Unless the tokens are those expected, there is a first difference. -/
theorem exists_tells (h : ¬ AsExpected line actual expected) :
    ∃ mismatch : Mismatch, mismatch.Tells line actual expected := by
  rcases Nat.lt_trichotomy actual.length expected.length with hlt | hlength | hgt
  · exact ⟨_, .tokensMissing (List.getElem?_eq_getElem hlt)⟩
  · obtain ⟨index, token, wanted, hfirst⟩ := exists_firstUnmet hlength h
    by_cases hvalue : token.Spans line (Text.utf8 wanted.value)
    · obtain ⟨common, hcommon⟩ := exists_commonPrefix wanted.scopes.reverse token.scopes
      cases he : wanted.scopes.reverse[common.length]? with
      | some e =>
        cases ha : token.scopes[common.length]? with
        | some a => exact ⟨_, .scope hfirst hvalue hcommon he ha⟩
        | none => exact ⟨_, .missingScope hfirst hvalue hcommon he ha⟩
      | none =>
        cases ha : token.scopes[common.length]? with
        | some a => exact ⟨_, .extraScope hfirst hvalue hcommon he ha⟩
        | none =>
          have hexpected := hcommon.left.eq_of_length_le (List.getElem?_eq_none_iff.mp he)
          have hactual := hcommon.right.eq_of_length_le (List.getElem?_eq_none_iff.mp ha)
          exact absurd ⟨hvalue, hactual.symm.trans hexpected⟩ hfirst.unmet
    · exact ⟨_, .value hfirst hvalue⟩
  · exact ⟨_, .tokensLeft (List.getElem?_eq_getElem hgt)⟩

end

/-- A line is accepted exactly if its tokens are those expected. Otherwise the mismatch is the
first difference, in which a token is shown by its text, or as out of range if it reaches past the
line. -/
theorem validateLine_decides (line : String) (actual : List Token)
    (expected : List ExpectedToken) :
    (validateLine line actual expected = .ok () ↔ AsExpected line actual expected) ∧
      (∀ mismatch, validateLine line actual expected = .error mismatch ↔
        mismatch.Tells line actual expected) ∧
      ∀ token ∈ actual, (∀ part, token.text? line = some part → token.shown line = part) ∧
        ((∀ bytes, ¬ token.Spans line bytes) → token.shown line = "<out of range>") := by
  refine ⟨⟨fun h => ?_, fun h => h.validateLine⟩,
    fun mismatch => ⟨fun h => ?_, fun h => h.validateLine⟩,
    fun token _ => ⟨fun part h => Token.shown_of_text h, Token.shown_of_outside⟩⟩
  · by_contra hnot
    obtain ⟨mismatch, htells⟩ := exists_tells hnot
    rw [htells.validateLine] at h
    cases h
  · by_cases hexpected : AsExpected line actual expected
    · rw [hexpected.validateLine] at h
      cases h
    · obtain ⟨other, htells⟩ := exists_tells hexpected
      rw [htells.validateLine] at h
      cases h
      exact htells

/-- The second token has one scope too few, and the third one, which is not looked at, reaches past
the line. -/
theorem validateLine_decides_missingScope :
    let actual : List Token :=
      [⟨0, 1, ["a.x", "x"]⟩, ⟨1, 2, ["b.x"]⟩, ⟨maxOffset, 2, []⟩]
    let expected : List ExpectedToken :=
      [{ value := "a", scopes := ["x", "a.x"] }, { value := "é", scopes := ["x", "b.x"] },
        { value := "z" }]
    (Mismatch.missingScope 1 1 "x").Tells "aéz" actual expected ∧
      ¬ AsExpected "aéz" actual expected ∧
      (actual.map (·.shown "aéz")) = ["a", "é", "<out of range>"] := by
  intro actual expected
  obtain ⟨haccepts, hrejects, hshown⟩ := validateLine_decides "aéz" actual expected
  have hresult : validateLine "aéz" actual expected = .error (.missingScope 1 1 "x") := by rfl
  refine ⟨(hrejects _).mp hresult, fun h => ?_, ?_⟩
  · rw [haccepts.mpr h] at hresult
    cases hresult
  · have hfirst := (hshown ⟨0, 1, ["a.x", "x"]⟩ (by simp [actual])).1 "a" (by decide +kernel)
    have hsecond := (hshown ⟨1, 2, ["b.x"]⟩ (by simp [actual])).1 "é" (by decide +kernel)
    have hthird := (hshown ⟨maxOffset, 2, []⟩ (by simp [actual])).2 fun bytes hbytes => by
      have hnone : Text.bytes? "aéz" (Token.span ⟨maxOffset, 2, []⟩) = none := by decide +kernel
      rw [Token.spans_iff.mp hbytes] at hnone
      cases hnone
    simp [actual, hfirst, hsecond, hthird]

end LineScopes
