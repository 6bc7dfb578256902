import LineScopes.LineTokenizer
import LineScopes.Proofs.History
import LineScopes.Proofs.Retention
import Mathlib.Data.List.Forall2

/-!
# Stacks that are the same go on the same

Stacks are compared without the positions that they hold, and rules by the
scope name of their grammar. Neither can tell two stacks apart that lines
begin with: no position is left on them, and each of their rules comes from
the grammar that its scope name stands for. So it makes no difference for any
further lines from which of two same stacks they are tokenized.
-/

namespace LineScopes

-- ---------------------------------------------------------------------------
-- Grammars and their scope names
-- ---------------------------------------------------------------------------

namespace Library

variable {library : Library ρ}

/-- The scope name of the grammar stands for it. -/
def Names (library : Library ρ) (grammar : Grammar ρ) : Prop :=
  library.grammar? grammar.scopeName = some grammar

theorem names_base (library : Library ρ) : library.Names library.base := library.grammar?_base

theorem names_of_grammar? (h : library.grammar? scope = some grammar) : library.Names grammar := by
  have hscope : grammar.scopeName = scope := by
    unfold grammar? at h
    split at h
    · next hbase =>
      obtain rfl := Option.some.inj h
      exact hbase
    · exact Registry.scopeName_of_get? h
  rw [Names, hscope, h]

theorem Names.resolve (hgrammar : library.Names grammar)
    (h : library.resolve grammar pattern = some ref) : library.Names ref.grammar := by
  rcases resolve_grammar h with hown | ⟨_, hscope⟩
  · rw [hown]
    exact hgrammar
  · exact names_of_grammar? hscope

theorem Names.eq_of_key_eq {a b : RuleRef ρ} (ha : library.Names a.grammar)
    (hb : library.Names b.grammar) (h : a.key = b.key) : a = b := by
  have hname : a.grammar.scopeName = b.grammar.scopeName := congrArg (·.1) h
  have hid : a.id = b.id := congrArg (·.2) h
  unfold Names at ha hb
  rw [hname, hb] at ha
  have hgrammar : a.grammar = b.grammar := (Option.some.inj ha).symm
  cases a
  cases b
  simp_all

end Library

-- ---------------------------------------------------------------------------
-- Stacks between lines
-- ---------------------------------------------------------------------------

/-- A frame between two lines, of a rule that its key stands for. -/
structure Frame.Between (library : Library ρ) (frame : Frame ρ) : Prop where
  names : library.Names frame.owner.grammar
  positions : frame.entered = none ∧ frame.anchor = none

namespace Frame

variable {library : Library ρ}

theorem Between.eq_of_beq {frame frame' : Frame ρ} (h : frame.Between library)
    (h' : frame'.Between library) (hsame : frame == frame') : frame = frame' := by
  obtain ⟨hkey, hname, hcontent, hending, htook⟩ := of_decide_eq_true hsame
  obtain ⟨hentered, hanchor⟩ := h.positions
  obtain ⟨hentered', hanchor'⟩ := h'.positions
  obtain ⟨owner, _, _, _, _, _, _⟩ := frame
  obtain ⟨owner', _, _, _, _, _, _⟩ := frame'
  obtain rfl : owner = owner' := h.names.eq_of_key_eq h'.names hkey
  simp_all

theorem Between.eq_of_frames_beq {frames frames' : List (Frame ρ)}
    (h : ∀ frame ∈ frames, frame.Between library) (h' : ∀ frame ∈ frames', frame.Between library)
    (hsame : frames == frames') : frames = frames' := by
  induction frames generalizing frames' with
  | nil => cases frames' with
    | nil => rfl
    | cons => contradiction
  | cons frame frames ih => cases frames' with
    | nil => contradiction
    | cons frame' frames' =>
      obtain ⟨hframe, hframes⟩ := (Bool.and_eq_true ..).mp hsame
      obtain ⟨hfirst, hrest⟩ := List.forall_mem_cons.mp h
      obtain ⟨hfirst', hrest'⟩ := List.forall_mem_cons.mp h'
      rw [hfirst.eq_of_beq hfirst' hframe, ih hrest hrest' hframes]

instance : ReflBEq (Frame ρ) where
  rfl := decide_eq_true ⟨rfl, rfl, rfl, rfl, rfl⟩

end Frame

theorem Stack.beq_refl (stack : Stack ρ) : stack == stack := by
  change (stack.root == stack.root && stack.frames == stack.frames &&
    stack.firstLine == stack.firstLine) = true
  simp

namespace Tokenizer

variable {tokenizer : Tokenizer ρ} {stack stack' : Stack ρ} {compiled compiled' : Compiled ρ}

theorem Reachable.names (h : tokenizer.Reachable stack) :
    stack.Each fun frame => tokenizer.Names frame.owner.grammar := by
  induction h with
  | initial => exact nofun
  | @line stack line nesting tokens after hstack hline ih =>
    -- the root is carried along, since its patterns lead to rules, too
    have hroot : ∀ {other : Stack ρ}, other.root = stack.root →
        other.root.atEnd = other.root ∧ tokenizer.Names other.root.owner.grammar := by
      intro other hother
      rw [hother]
      exact ⟨hstack.atEnd_root, by rw [hstack.root_eq]; exact tokenizer.names_base⟩
    have hkeeps : ∃ last : Stack ρ, (last.root = stack.root ∧
        last.Each fun frame => tokenizer.Names frame.owner.grammar) ∧ after = last.endLine := by
      refine tokenizeWithin_keeps ?_ ?_ ?_ hline ⟨rfl, ih⟩
      · rintro text scan move found hmakes ⟨hsame, hscan⟩
        refine ⟨(Scan.root_stackAfter (hroot hsame).1 text found move).trans hsame, ?_⟩
        refine Scan.each_after hscan fun ref captures ending hmove => ?_
        subst hmove
        exact Library.candidates_keep Library.Names.resolve (hscan.top (hroot hsame).2)
          (hmakes.candidate rfl).1
      · rintro text scan move found - ⟨hsame, hscan⟩
        exact ⟨(Scan.root_stackStuck (hroot hsame).1 text found move).trans hsame,
          Scan.each_stuck hscan (fun _ hframe => hframe) text found move⟩
      · rintro other above below hframes ⟨hsame, hother⟩
        exact ⟨hsame, hother.cut hframes⟩
    obtain ⟨last, ⟨-, hlast⟩, rfl⟩ := hkeeps
    exact hlast.endLine fun _ hframe => hframe

theorem Reachable.between (h : tokenizer.Reachable stack) :
    ∀ frame ∈ stack.frames, frame.Between tokenizer.toLibrary :=
  fun frame hmem => ⟨h.names frame hmem, h.positions frame (List.mem_append_left _ hmem)⟩

/-- Stacks that lines begin with are the same only if they are equal. -/
theorem Reachable.eq_of_beq (h : tokenizer.Reachable stack) (h' : tokenizer.Reachable stack')
    (hsame : stack == stack') : stack = stack' := by
  obtain ⟨hrest, hfirst⟩ := (Bool.and_eq_true ..).mp hsame
  obtain ⟨-, hframes⟩ := (Bool.and_eq_true ..).mp hrest
  have hroot : stack.root = stack'.root := h.root_eq.trans h'.root_eq.symm
  have hframes := Frame.Between.eq_of_frames_beq h.between h'.between hframes
  obtain ⟨root, frames, firstLine⟩ := stack
  obtain ⟨root', frames', firstLine'⟩ := stack'
  simp_all

end Tokenizer

-- ---------------------------------------------------------------------------
-- Further lines
-- ---------------------------------------------------------------------------

namespace LineTokenizer

/-- What the lines come to one after the other, up to the first one that fails. -/
def results (tokenizer : LineTokenizer σ τ) (stack : τ) :
    List String → σ → List (Except (Halt TokenizeError) (List Token × τ))
  | [], _ => []
  | line :: rest, state =>
    match tokenizer.tokenize stack line state with
    | .ok (tokens, after) state => .ok (tokens, after) :: tokenizer.results after rest state
    | .error e _ => [.error e]

end LineTokenizer

/-- A line has the same tokens and leaves the same stack, or it fails with the same error. -/
inductive SameResult : Except (Halt TokenizeError) (List Token × Stack ρ) →
    Except (Halt TokenizeError) (List Token × Stack ρ) → Prop
  | ok {tokens stack stack'} : stack == stack' →
      SameResult (.ok (tokens, stack)) (.ok (tokens, stack'))
  | error {e} : SameResult (.error e) (.error e)

namespace Tokenizer

variable {tokenizer : Tokenizer ρ} {stack stack' : Stack ρ} {compiled compiled' : Compiled ρ}

theorem results_self (hused : tokenizer.Used compiled) (hused' : tokenizer.Used compiled')
    (stack : Stack ρ) (lines : List String) :
    List.Forall₂ SameResult (tokenizer.lineTokenizer.results stack lines compiled)
      (tokenizer.lineTokenizer.results stack lines compiled') := by
  induction lines generalizing stack compiled compiled' with
  | nil => exact .nil
  | cons line rest ih =>
    have houtcome : outcome (tokenizer.tokenizeNext stack line) compiled =
        outcome (tokenizer.tokenizeNext stack line) compiled' := by
      rw [outcome_tokenizeNext hused, outcome_tokenizeNext hused']
    unfold outcome at houtcome
    simp only [LineTokenizer.results, lineTokenizer]
    cases hline : tokenizer.tokenizeNext stack line compiled with
    | ok result next =>
      cases hline' : tokenizer.tokenizeNext stack line compiled' with
      | ok result' next' =>
        rw [hline, hline'] at houtcome
        obtain rfl := Except.ok.inj houtcome
        exact .cons (.ok result.2.beq_refl) (ih (.ok hused hline) (.ok hused' hline') _)
      | error e' next' => simp [hline, hline'] at houtcome
    | error e next =>
      cases hline' : tokenizer.tokenizeNext stack line compiled' with
      | ok result' next' => simp [hline, hline'] at houtcome
      | error e' next' =>
        rw [hline, hline'] at houtcome
        obtain rfl := Except.error.inj houtcome
        exact .cons .error .nil

/-- From two stacks that are the same, whatever lines have led to them, any further lines come to
the same, one by one. -/
theorem results_of_beq (hstack : tokenizer.Reachable stack) (hstack' : tokenizer.Reachable stack')
    (hsame : stack == stack') (hused : tokenizer.Used compiled) (hused' : tokenizer.Used compiled')
    (lines : List String) :
    List.Forall₂ SameResult (tokenizer.lineTokenizer.results stack lines compiled)
      (tokenizer.lineTokenizer.results stack' lines compiled') := by
  obtain rfl := hstack.eq_of_beq hstack' hsame
  exact results_self hused hused' stack lines

/-- Two texts that end within quotes, which begin at different positions. -/
theorem results_of_beq_quotes : ∃ grammar tokens tokens' stack stack' compiled compiled',
    Grammar.compile Regex.engine quotes = .ok grammar ∧
      (alone Regex.engine grammar).tokenizeNext (.initial grammar) "a 'b" [] =
        .ok (tokens, stack) compiled ∧
      (alone Regex.engine grammar).tokenizeNext (.initial grammar) "'" [] =
        .ok (tokens', stack') compiled' ∧
      tokens.length = 3 ∧ tokens'.length = 1 ∧ stack == stack' ∧
      List.Forall₂ SameResult
        ((alone Regex.engine grammar).lineTokenizer.results stack ["c", "d' e"] compiled)
        ((alone Regex.engine grammar).lineTokenizer.results stack' ["c", "d' e"] compiled') := by
  have hrun : ∃ grammar, Grammar.compile Regex.engine quotes = .ok grammar ∧
      ∃ line compiled, (alone Regex.engine grammar).tokenizeNext (.initial grammar) "a 'b" [] =
        .ok line compiled ∧
      ∃ line' compiled', (alone Regex.engine grammar).tokenizeNext (.initial grammar) "'" [] =
        .ok line' compiled' ∧
        line.1.length = 3 ∧ line'.1.length = 1 ∧ line.2 == line'.2 := by decide +kernel
  obtain ⟨grammar, hgrammar, ⟨tokens, stack⟩, compiled, hline, ⟨tokens', stack'⟩, compiled', hline',
    hlength, hlength', hsame⟩ := hrun
  exact ⟨grammar, tokens, tokens', stack, stack', compiled, compiled', hgrammar, hline, hline',
    hlength, hlength', hsame, results_of_beq (.line .initial (tokenizeLine_of_next .fresh hline))
      (.line .initial (tokenizeLine_of_next .fresh hline')) hsame (.ok .fresh hline)
      (.ok .fresh hline') _⟩

end Tokenizer

end LineScopes
