import LineScopes.Case
import LineScopes.Proofs.Boundaries
import LineScopes.Proofs.Remembering
import Mathlib.Data.List.Forall2

/-!
# Produced tokens validate against themselves

The tokens of a line can be written down as what is expected of it: the text
of each token, and its scopes the other way round. The driver accepts the
lines with these expectations, also if it starts with a tokenizer that has not
compiled anything yet.
-/

namespace LineScopes

-- ---------------------------------------------------------------------------
-- Expectations
-- ---------------------------------------------------------------------------

/-- A token as it is expected. -/
def Token.expected (line : String) (token : Token) : ExpectedToken :=
  ⟨(token.text? line).getD "", token.scopes.reverse⟩

/-- A line of which the tokens given are expected. -/
def LineCase.expecting (line : String) (tokens : List Token) : LineCase :=
  ⟨line, tokens.map (Token.expected line)⟩

/-- Every token is a slice of the line. -/
def Token.Sliced (line : String) (tokens : List Token) : Prop :=
  ∀ token ∈ tokens, (token.text? line).isSome

theorem compareScopesFrom_self (position : Nat) (scopes : List String) :
    compareScopesFrom position scopes scopes = .equal := by
  induction scopes generalizing position with
  | nil => rfl
  | cons scope rest ih => rw [compareScopesFrom, if_pos rfl, ih]

theorem Token.hasValue_expected {token : Token} (h : (token.text? line).isSome) :
    token.hasValue line (token.expected line).value := by
  obtain ⟨value, hvalue⟩ := Option.isSome_iff_exists.mp h
  have hbytes := Text.bytes?_eq_some hvalue
  simp [hasValue, expected, hvalue, hbytes]

theorem validateScopes_expected (index : Nat) (token : Token) (line : String) :
    validateScopes index (token.expected line).scopes token.scopes = .ok () := by
  simp [validateScopes, Token.expected, compareScopes, compareScopesFrom_self]

theorem validateTokens_expected (h : Token.Sliced line tokens) (index : Nat) :
    validateTokens line index tokens (tokens.map (Token.expected line)) = .ok () := by
  induction tokens generalizing index with
  | nil => rfl
  | cons token tokens ih =>
    have hvalue := Token.hasValue_expected (h token List.mem_cons_self)
    have hrest := ih (fun token hmem => h token (List.mem_cons_of_mem _ hmem)) (index + 1)
    simp only [List.map_cons, validateTokens, hvalue, not_true_eq_false, if_false,
      validateScopes_expected]
    exact hrest

theorem validateLine_expected (h : Token.Sliced line tokens) :
    validateLine line tokens (tokens.map (Token.expected line)) = .ok () := by
  have hexpected : (tokens.map (Token.expected line)).drop tokens.length = [] := by simp
  have hactual : tokens.drop (tokens.map (Token.expected line)).length = [] := by simp
  unfold validateLine
  rw [hexpected, hactual]
  exact validateTokens_expected h 0

-- ---------------------------------------------------------------------------
-- Slices
-- ---------------------------------------------------------------------------

theorem Paint.Covers.isBoundary {paint : Paint}
    (h : paint.Covers (Text.IsBoundary (line ++ "\n")) 0) (trailing : List String) :
    ∀ token ∈ paint.tokens line.utf8ByteSize trailing,
      Text.IsBoundary line token.offset ∧ Text.IsBoundary line (token.offset + token.length) := by
  intro token hmem
  unfold Paint.tokens at hmem
  split at hmem
  · obtain rfl := List.mem_singleton.mp hmem
    exact ⟨Text.isBoundary_zero line, Text.isBoundary_zero line⟩
  · obtain ⟨stroke, hstroke, rfl⟩ := List.mem_map.mp hmem
    obtain ⟨hstroke, hlt⟩ := List.mem_filter.mp hstroke
    have hlt : stroke.start < line.utf8ByteSize := of_decide_eq_true hlt
    have hstart : Text.IsBoundary line stroke.start :=
      .of_append (h.tiles.stops_start (Text.isBoundary_zero _) h.stops stroke hstroke) (by omega)
    refine ⟨hstart, ?_⟩
    have hlength : (stroke.token line.utf8ByteSize).offset +
        (stroke.token line.utf8ByteSize).length = min stroke.stop line.utf8ByteSize := by
      simp only [Stroke.token]
      have := h.tiles.start_lt hstroke
      omega
    rw [hlength]
    rcases Nat.le_total stroke.stop line.utf8ByteSize with hle | hle
    · rw [Nat.min_eq_left hle]
      exact .of_append (h.stops stroke hstroke) hle
    · rw [Nat.min_eq_right hle]
      exact Text.isBoundary_utf8ByteSize line

namespace Tokenizer

variable {tokenizer : Tokenizer ρ} {compiled compiled' : Compiled ρ}

theorem tokenizeNext_sliced (hengine : tokenizer.engine.OnBoundaries)
    (hline : line.utf8ByteSize ≤ maxOffset)
    (h : tokenizer.tokenizeNext stack line compiled = .ok (tokens, after) compiled') :
    Token.Sliced line tokens := by
  obtain ⟨paint, hpaint, -, rfl⟩ := tokenizeNext_covers hengine.stopsAt h
  intro token hmem
  obtain ⟨hstart, hstop⟩ := hpaint.isBoundary after.scopes token hmem
  have hle := hstop.le
  unfold Token.text? Token.span
  rw [Nat.min_eq_left (by omega)]
  exact hstart.slice?_isSome hstop (Nat.le_add_right ..)

theorem driveFrom_produced (hengine : tokenizer.engine.OnBoundaries)
    (hlines : ∀ line ∈ lines, line.utf8ByteSize ≤ maxOffset)
    (hcompiled : Faithful tokenizer.engine compiled) (hother : Faithful tokenizer.engine other)
    (h : tokenizer.lineTokenizer.tokenizeFrom stack lines compiled =
      .ok (lineTokens, after) compiled') (number : Nat) :
    List.Forall₂ Token.Sliced lines lineTokens ∧ ∃ other',
      tokenizer.lineTokenizer.driveFrom number stack
        (List.zipWith LineCase.expecting lines lineTokens) other = .ok () other' := by
  induction lines generalizing stack compiled other lineTokens number with
  | nil =>
    obtain ⟨⟨rfl, -⟩, -⟩ : ([] = lineTokens ∧ stack = after) ∧ compiled = compiled' := by
      simpa [LineTokenizer.tokenizeFrom, pure, EStateM.pure] using h
    exact ⟨.nil, other, rfl⟩
  | cons line rest ih =>
    obtain ⟨⟨tokens, next⟩, compiled₁, hline, h⟩ := bind_run_ok.mp h
    obtain ⟨⟨restTokens, last⟩, compiled₂, hrest, h⟩ := bind_run_ok.mp h
    obtain ⟨⟨rfl, rfl⟩, rfl⟩ : (tokens :: restTokens = lineTokens ∧ last = after) ∧
        compiled₂ = compiled' := by
      simpa [pure, EStateM.pure] using h
    obtain ⟨hcompiled₁, other₁, hagain, hother₁⟩ := tokenizeNext_ok hcompiled hother hline
    have hsliced := tokenizeNext_sliced hengine (hlines line List.mem_cons_self) hline
    obtain ⟨hslices, other', hdrive⟩ :=
      ih (fun line hmem => hlines line (List.mem_cons_of_mem _ hmem)) hcompiled₁ hother₁ hrest
        (number + 1)
    refine ⟨.cons hsliced hslices, other', bind_run_ok.mpr ⟨(tokens, next), other₁, ?_, ?_⟩⟩
    · change EStateM.adaptExcept _ (tokenizer.tokenizeNext stack line) other = _
      rw [EStateM.adaptExcept, hagain]
    · simp only [LineCase.expecting, validateLine_expected hsliced]
      exact hdrive

/-- The driver accepts what the tokenizer has produced, whatever the tokenizer had compiled before
and with a tokenizer that has compiled nothing. Texts are shorter than 2^64 bytes. -/
theorem drive_produced (hengine : tokenizer.engine.OnBoundaries) (hused : tokenizer.Used compiled)
    (hlines : ∀ line ∈ lines, line.utf8ByteSize ≤ maxOffset)
    (h : tokenizer.lineTokenizer.tokenizeLines lines compiled = .ok (lineTokens, after) compiled') :
    List.Forall₂ Token.Sliced lines lineTokens ∧ ∃ compiled'',
      tokenizer.lineTokenizer.drive (List.zipWith LineCase.expecting lines lineTokens) [] =
        .ok () compiled'' :=
  driveFrom_produced hengine hlines hused.faithful (faithful_nil _) h 1

theorem drive_produced_quotes : ∃ grammar lineTokens,
    Grammar.compile Regex.engine quotes = .ok grammar ∧
      lineTokens.map List.length = [3, 3] ∧ ∃ compiled,
        (alone Regex.engine grammar).lineTokenizer.drive
          (List.zipWith LineCase.expecting ["é 'b", "c' é"] lineTokens) [] = .ok () compiled := by
  have hrun : ∃ grammar, Grammar.compile Regex.engine quotes = .ok grammar ∧ ∃ lines compiled,
      (alone Regex.engine grammar).lineTokenizer.tokenizeLines ["é 'b", "c' é"] [] =
        .ok lines compiled ∧ lines.1.map List.length = [3, 3] := by decide +kernel
  obtain ⟨grammar, hgrammar, ⟨lineTokens, after⟩, compiled, h, hlengths⟩ := hrun
  exact ⟨grammar, lineTokens, hgrammar, hlengths,
    (drive_produced Regex.engine_onBoundaries .fresh (by decide) h).2⟩

end Tokenizer

end LineScopes
