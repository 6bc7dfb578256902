import LineScopes.Case
import LineScopes.Proofs.Computation
import Mathlib.Data.List.Forall2

/-!
# The first line that fails

Driving a case comes to the same as tokenizing its lines, each from the stack
that the one before has left, and comparing what comes out with what is
expected, up to the first line that fails. That line is the one reported, and
no line after it is tokenized. This holds for tokenizers of any kind.
-/

namespace LineScopes

/-- The tokens are those that are expected of the line. -/
def LineCase.Accepts (case : LineCase) (tokens : List Token) : Prop :=
  validateLine case.line tokens case.tokens = .ok ()

namespace LineTokenizer

section

variable (tokenizer : LineTokenizer σ τ)

/-- From a stack on the lines are tokenized one after the other, and the tokens of each of them
are accepted. -/
def PassesFrom (stack : τ) (cases : List LineCase) (state : σ) (after : τ) (state' : σ) : Prop :=
  ∃ lineTokens, tokenizer.tokenizeFrom stack (cases.map (·.line)) state =
      .ok (lineTokens, after) state' ∧
    List.Forall₂ LineCase.Accepts cases lineTokens

/-- All lines are tokenized one after the other, and the tokens of each of them are accepted. -/
def Passes (cases : List LineCase) (state : σ) (after : τ) (state' : σ) : Prop :=
  ∃ lineTokens, tokenizer.tokenizeLines (cases.map (·.line)) state =
      .ok (lineTokens, after) state' ∧
    List.Forall₂ LineCase.Accepts cases lineTokens

/-- A line that cannot be tokenized, or whose tokens are not accepted, as it is reported. The
program may also die of it. -/
inductive FailsOn (stack : τ) (case : LineCase) (state : σ) (number : Nat) :
    Halt CaseError → σ → Prop
  | tokenize {cause state'} :
      tokenizer.tokenize stack case.line state = .error (.error cause) state' →
      FailsOn stack case state number (.error (.tokenize number cause)) state'
  | crash {cause state'} :
      tokenizer.tokenize stack case.line state = .error (.crash cause) state' →
      FailsOn stack case state number (.crash cause) state'
  | mismatch {tokens next state' difference} :
      tokenizer.tokenize stack case.line state = .ok (tokens, next) state' →
      validateLine case.line tokens case.tokens = .error difference →
      FailsOn stack case state number (.error (.mismatch number case.line difference)) state'

/-- The lines before the one of this number pass, and that one fails. -/
inductive FirstFailure (cases : List LineCase) (state : σ) : Nat → Halt CaseError → σ → Prop
  | stops {before case rest stack between error state'} : cases = before ++ case :: rest →
      tokenizer.Passes before state stack between →
      tokenizer.FailsOn stack case between (before.length + 1) error state' →
      FirstFailure cases state (before.length + 1) error state'

end

variable {tokenizer : LineTokenizer σ τ} {stack next after : τ} {state between state' : σ}
  {case : LineCase} {cases before rest : List LineCase}

-- ---------------------------------------------------------------------------
-- One line
-- ---------------------------------------------------------------------------

theorem passesFrom_nil (tokenizer : LineTokenizer σ τ) (stack : τ) (state : σ) :
    tokenizer.PassesFrom stack [] state stack state :=
  ⟨[], rfl, .nil⟩

theorem passesFrom_cons
    (h : tokenizer.tokenize stack case.line state = .ok (tokens, next) between)
    (haccepts : case.Accepts tokens) (hrest : tokenizer.PassesFrom next rest between after state') :
    tokenizer.PassesFrom stack (case :: rest) state after state' := by
  obtain ⟨lineTokens, hlines, hall⟩ := hrest
  refine ⟨tokens :: lineTokens, ?_, .cons haccepts hall⟩
  refine bind_run_ok.mpr ⟨(tokens, next), between, h, ?_⟩
  exact bind_run_ok.mpr ⟨(lineTokens, after), state', hlines, rfl⟩

theorem PassesFrom.cons_inv (h : tokenizer.PassesFrom stack (case :: rest) state after state') :
    ∃ tokens next between, tokenizer.tokenize stack case.line state = .ok (tokens, next) between ∧
      case.Accepts tokens ∧ tokenizer.PassesFrom next rest between after state' := by
  obtain ⟨lineTokens, hlines, hall⟩ := h
  obtain ⟨⟨tokens, next⟩, between, hline, hlines⟩ := bind_run_ok.mp hlines
  obtain ⟨⟨restTokens, last⟩, state'', hrest, hlines⟩ := bind_run_ok.mp hlines
  cases hlines
  obtain _ | ⟨haccepts, hall⟩ := hall
  exact ⟨tokens, next, between, hline, haccepts, restTokens, hrest, hall⟩

theorem driveFrom_accepts (number : Nat)
    (h : tokenizer.tokenize stack case.line state = .ok (tokens, next) between)
    (haccepts : case.Accepts tokens) (rest : List LineCase) :
    tokenizer.driveFrom number stack (case :: rest) state =
      tokenizer.driveFrom (number + 1) next rest between := by
  change EStateM.bind (EStateM.adaptExcept _ _) _ state = _
  simp only [EStateM.bind, EStateM.adaptExcept, h, show validateLine _ _ _ = _ from haccepts]

theorem FailsOn.driveFrom {number : Nat}
    (h : tokenizer.FailsOn stack case state number error state') (rest : List LineCase) :
    tokenizer.driveFrom number stack (case :: rest) state = .error error state' := by
  change EStateM.bind (EStateM.adaptExcept _ _) _ state = _
  cases h with
  | tokenize h | crash h =>
    simp only [EStateM.bind, EStateM.adaptExcept, h]
    rfl
  | mismatch h hdifference =>
    simp only [EStateM.bind, EStateM.adaptExcept, h, hdifference]
    rfl

theorem accepts_or_failsOn (tokenizer : LineTokenizer σ τ) (stack : τ) (case : LineCase)
    (state : σ) :
    (∃ tokens next between, tokenizer.tokenize stack case.line state = .ok (tokens, next) between ∧
        case.Accepts tokens) ∨
      ∀ number, ∃ error state', tokenizer.FailsOn stack case state number error state' := by
  cases hline : tokenizer.tokenize stack case.line state with
  | error halt state' =>
    cases halt with
    | error cause => exact .inr fun _ => ⟨_, _, .tokenize hline⟩
    | crash cause => exact .inr fun _ => ⟨_, _, .crash hline⟩
  | ok result between =>
    obtain ⟨tokens, next⟩ := result
    cases hvalid : validateLine case.line tokens case.tokens with
    | error difference => exact .inr fun _ => ⟨_, _, .mismatch hline hvalid⟩
    | ok _ => exact .inl ⟨tokens, next, between, rfl, hvalid⟩

-- ---------------------------------------------------------------------------
-- All lines
-- ---------------------------------------------------------------------------

theorem PassesFrom.driveFrom (h : tokenizer.PassesFrom stack before state after between)
    (number : Nat) (rest : List LineCase) :
    tokenizer.driveFrom number stack (before ++ rest) state =
      tokenizer.driveFrom (number + before.length) after rest between := by
  induction before generalizing stack state number with
  | nil =>
    obtain ⟨lineTokens, hlines, -⟩ := h
    cases hlines
    rfl
  | cons case before ih =>
    obtain ⟨tokens, next, first, hline, haccepts, hrest⟩ := h.cons_inv
    rw [List.cons_append, driveFrom_accepts number hline haccepts, ih hrest, List.length_cons]
    congr 1
    omega

theorem passesFrom_or_failsOn (tokenizer : LineTokenizer σ τ) (stack : τ) (cases : List LineCase)
    (state : σ) :
    (∃ after state', tokenizer.PassesFrom stack cases state after state') ∨
      ∃ before case rest after between, cases = before ++ case :: rest ∧
        tokenizer.PassesFrom stack before state after between ∧
        ∀ number, ∃ error state', tokenizer.FailsOn after case between number error state' := by
  induction cases generalizing stack state with
  | nil => exact .inl ⟨stack, state, passesFrom_nil tokenizer stack state⟩
  | cons case rest ih =>
    rcases accepts_or_failsOn tokenizer stack case state with
      ⟨tokens, next, between, hline, haccepts⟩ | hfails
    · rcases ih next between with
        ⟨after, state', hrest⟩ | ⟨before, other, rest, after, last, rfl, hbefore, hfails⟩
      · exact .inl ⟨after, state', passesFrom_cons hline haccepts hrest⟩
      · exact .inr ⟨case :: before, other, rest, after, last, rfl,
          passesFrom_cons hline haccepts hbefore, hfails⟩
    · exact .inr ⟨[], case, rest, stack, state, rfl, passesFrom_nil tokenizer stack state, hfails⟩

theorem Passes.drive (h : tokenizer.Passes cases state after state') :
    tokenizer.drive cases state = .ok () state' := by
  have hdrive := PassesFrom.driveFrom h 1 []
  rw [List.append_nil] at hdrive
  exact hdrive

theorem FirstFailure.drive {number : Nat}
    (h : tokenizer.FirstFailure cases state number error state') :
    tokenizer.drive cases state = .error error state' := by
  obtain ⟨rfl, hbefore, hfails⟩ := h
  rw [LineTokenizer.drive, PassesFrom.driveFrom hbefore, Nat.add_comm 1]
  exact hfails.driveFrom _

theorem passes_or_firstFailure (tokenizer : LineTokenizer σ τ) (cases : List LineCase)
    (state : σ) :
    (∃ after state', tokenizer.Passes cases state after state') ∨
      ∃ number error state', tokenizer.FirstFailure cases state number error state' := by
  rcases passesFrom_or_failsOn tokenizer tokenizer.initial cases state with
    hpasses | ⟨before, case, rest, after, between, hcases, hbefore, hfails⟩
  · exact .inl hpasses
  · obtain ⟨error, state', hfails⟩ := hfails (before.length + 1)
    exact .inr ⟨_, error, state', .stops hcases hbefore hfails⟩

-- ---------------------------------------------------------------------------
-- The lines that are asked for
-- ---------------------------------------------------------------------------

/-- The tokenizer together with a record of the lines that it has been given. -/
def recording (tokenizer : LineTokenizer σ τ) : LineTokenizer (σ × List String) τ where
  initial := tokenizer.initial
  tokenize stack line := fun (state, given) =>
    match tokenizer.tokenize stack line state with
    | .ok result state' => .ok result (state', given ++ [line])
    | .error cause state' => .error cause (state', given ++ [line])

theorem recording_ok {given : List String}
    (h : tokenizer.tokenize stack line state = .ok result state') :
    tokenizer.recording.tokenize stack line (state, given) =
      .ok result (state', given ++ [line]) := by
  simp only [recording, h]

theorem recording_error {given : List String}
    (h : tokenizer.tokenize stack line state = .error cause state') :
    tokenizer.recording.tokenize stack line (state, given) =
      .error cause (state', given ++ [line]) := by
  simp only [recording, h]

theorem PassesFrom.recording (h : tokenizer.PassesFrom stack cases state after state')
    (given : List String) :
    tokenizer.recording.PassesFrom stack cases (state, given) after
      (state', given ++ cases.map (·.line)) := by
  induction cases generalizing stack state given with
  | nil =>
    obtain ⟨lineTokens, hlines, -⟩ := h
    cases hlines
    rw [List.map_nil, List.append_nil]
    exact passesFrom_nil _ _ _
  | cons case rest ih =>
    obtain ⟨tokens, next, between, hline, haccepts, hrest⟩ := h.cons_inv
    have hgiven : given ++ (case :: rest).map (·.line) =
        given ++ [case.line] ++ rest.map (·.line) := by simp
    rw [hgiven]
    exact passesFrom_cons (recording_ok hline) haccepts (ih hrest _)

theorem FailsOn.recording {number : Nat}
    (h : tokenizer.FailsOn stack case state number error state') (given : List String) :
    tokenizer.recording.FailsOn stack case (state, given) number error
      (state', given ++ [case.line]) := by
  cases h with
  | tokenize h => exact .tokenize (recording_error h)
  | crash h => exact .crash (recording_error h)
  | mismatch h hdifference => exact .mismatch (recording_ok h) hdifference

/-- The line that fails first is the last one that is given to the tokenizer. -/
theorem FirstFailure.recording {number : Nat}
    (h : tokenizer.FirstFailure cases state number error state') :
    tokenizer.recording.FirstFailure cases (state, []) number error
      (state', (cases.take number).map (·.line)) := by
  obtain @⟨before, case, rest, _, _, _, _, rfl, hbefore, hfails⟩ := h
  have hlines : ((before ++ case :: rest).take (before.length + 1)).map (·.line) =
      [] ++ before.map (·.line) ++ [case.line] := by
    simp [List.take_append, List.take_of_length_le]
  rw [hlines]
  exact .stops rfl (PassesFrom.recording hbefore []) (hfails.recording _)

/-- Driving a case succeeds exactly if all of its lines pass. Otherwise it reports the first line
that fails, and the lines up to that one are all that the tokenizer is given. -/
theorem drive_firstFailure (tokenizer : LineTokenizer σ τ) (cases : List LineCase)
    (state state' : σ) :
    (tokenizer.drive cases state = .ok () state' ↔
        ∃ after, tokenizer.Passes cases state after state') ∧
      ∀ error, tokenizer.drive cases state = .error error state' ↔
        ∃ number, tokenizer.FirstFailure cases state number error state' ∧
          tokenizer.recording.drive cases (state, []) =
            .error error (state', (cases.take number).map (·.line)) := by
  refine ⟨⟨fun h => ?_, fun ⟨_, hpasses⟩ => hpasses.drive⟩,
    fun error => ⟨fun h => ?_, fun ⟨_, hfails, _⟩ => hfails.drive⟩⟩
  · rcases passes_or_firstFailure tokenizer cases state with
      ⟨after, last, hpasses⟩ | ⟨number, error, last, hfails⟩
    · rw [hpasses.drive] at h
      cases h
      exact ⟨after, hpasses⟩
    · rw [hfails.drive] at h
      cases h
  · rcases passes_or_firstFailure tokenizer cases state with
      ⟨after, last, hpasses⟩ | ⟨number, error, last, hfails⟩
    · rw [hpasses.drive] at h
      cases h
    · rw [hfails.drive] at h
      cases h
      exact ⟨number, hfails, hfails.recording.drive⟩

end LineTokenizer

end LineScopes
