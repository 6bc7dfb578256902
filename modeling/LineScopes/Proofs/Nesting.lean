import LineScopes.Proofs.Inquiry
import LineScopes.Proofs.Progress
import Mathlib.Order.WellFounded

/-!
# When tokenizing comes to an end

Scans always end, but passages may ask for passages within them without an
end. A line has tokens, or an error of a pattern, exactly if they do not. Where
they do, the texts of the passages get no shorter from some passage on: one
text is tokenized again and again, each time within itself.
-/

namespace LineScopes.Tokenizer

variable {tokenizer : Tokenizer ρ} {stack : Stack ρ}

/-- Passages are tokenized within one another no deeper than given. -/
abbrev paintWithin (tokenizer : Tokenizer ρ) (nesting : Nat) :
    Rescan (Except (Halt TokenizeError)) ρ :=
  Passage.tokenizeWithin tokenizer.context nesting

def inquiring (tokenizer : Tokenizer ρ) : Context (Inquiry ρ) ρ :=
  { tokenizer with
    search := tokenizer.engine.search
    compile := fun source => .ofExcept (compile tokenizer.engine source) }

/-- What tokenizing a passage comes to once the passages within it are known. -/
def inquiry (tokenizer : Tokenizer ρ) (passage : Passage ρ) : Inquiry ρ Paint :=
  passage.tokenize tokenizer.inquiring .query

/-- What tokenizing a line comes to once the passages within it are known. -/
def lineInquiry (tokenizer : Tokenizer ρ) (stack : Stack ρ) (line : String) :
    Inquiry ρ (List Token × Stack ρ) :=
  tokenizer.inquiring.tokenizeWith .query stack line

theorem inquiring_agrees (rescan : Rescan (Except (Halt TokenizeError)) ρ) :
    (Inquiry.answering rescan).Contexts tokenizer.inquiring tokenizer.context := by
  refine ⟨rfl, rfl, fun source => ?_⟩
  change (Inquiry.ofExcept (compile tokenizer.engine source)).answeredBy rescan =
    compile tokenizer.engine source
  cases compile tokenizer.engine source <;> rfl

theorem paintWithin_succ (nesting : Nat) (passage : Passage ρ) :
    tokenizer.paintWithin (nesting + 1) passage =
      (tokenizer.inquiry passage).answeredBy (tokenizer.paintWithin nesting) :=
  (Passage.tokenize_agree (inquiring_agrees _) (Inquiry.query_agree _) passage).symm

theorem tokenizeWithin_eq (nesting : Nat) (stack : Stack ρ) (line : String) :
    tokenizer.context.tokenizeWithin nesting stack line =
      (tokenizer.lineInquiry stack line).answeredBy (tokenizer.paintWithin nesting) :=
  (Context.tokenizeWith_agree (inquiring_agrees _) (Inquiry.query_agree _) stack line).symm

-- ---------------------------------------------------------------------------
-- Deeper nesting
-- ---------------------------------------------------------------------------

theorem paintWithin_extends_succ (nesting : Nat) :
    Inquiry.Extends (tokenizer.paintWithin nesting) (tokenizer.paintWithin (nesting + 1)) := by
  induction nesting with
  | zero => exact fun _ h => absurd rfl h
  | succ nesting ih =>
    intro passage h
    rw [paintWithin_succ] at h ⊢
    rw [paintWithin_succ]
    exact Inquiry.answeredBy_extends ih h

/-- Once it has come to an end, a deeper nesting changes nothing. -/
theorem paintWithin_extends (h : nesting ≤ deeper) :
    Inquiry.Extends (tokenizer.paintWithin nesting) (tokenizer.paintWithin deeper) := by
  induction h with
  | refl => exact fun _ _ => rfl
  | step _ ih =>
    intro passage hends
    have hdeeper := ih passage hends
    exact (paintWithin_extends_succ _ passage (by rwa [hdeeper])).trans hdeeper

-- ---------------------------------------------------------------------------
-- Questions
-- ---------------------------------------------------------------------------

/-- A passage is painted this way, however deep that nests. -/
def Paints (tokenizer : Tokenizer ρ) (passage : Passage ρ) (paint : Paint) : Prop :=
  ∃ nesting, tokenizer.paintWithin nesting passage = .ok paint

/-- Tokenizing the outer passage asks for the inner one. -/
def Asks (tokenizer : Tokenizer ρ) (outer inner : Passage ρ) : Prop :=
  (tokenizer.inquiry outer).Asks tokenizer.Paints inner

/-- Tokenizing a passage comes to an end. -/
def PaintingEnds (tokenizer : Tokenizer ρ) (passage : Passage ρ) : Prop :=
  ∃ nesting, tokenizer.paintWithin nesting passage ≠ .error (.crash .endless)

theorem answeredBy_ends {t : Inquiry ρ α} (ht : t.Holds allowed asked P)
    (hallowed : ¬ allowed (.crash .endless))
    (hasked : ∀ passage, t.Asks tokenizer.Paints passage → tokenizer.PaintingEnds passage) :
    ∃ nesting, t.answeredBy (tokenizer.paintWithin nesting) ≠ .error (.crash .endless) := by
  induction t with
  | answer a => exact ⟨0, nofun⟩
  | fail e => exact ⟨0, fun h => hallowed (Except.error.inj h ▸ ht)⟩
  | ask passage next ih =>
    obtain ⟨n, hn⟩ := hasked passage .first
    cases hpaint : tokenizer.paintWithin n passage with
    | error e =>
      refine ⟨n, fun h => hn ?_⟩
      rw [Inquiry.answeredBy_ask_error hpaint] at h
      rw [hpaint, Except.error.inj h]
    | ok paint =>
      obtain ⟨m, hm⟩ := ih paint (ht.2 paint) fun inner hinner =>
        hasked inner (.later ⟨n, hpaint⟩ hinner)
      have hdeep := paintWithin_extends (Nat.le_max_left n m) passage hn
      have hnext := Inquiry.answeredBy_extends (paintWithin_extends (Nat.le_max_right n m)) hm
      refine ⟨max n m, ?_⟩
      rwa [Inquiry.answeredBy_ask_ok (hdeep.trans hpaint), hnext]

theorem paintWithin_ends_of_asks {t : Inquiry ρ α} {inner : Passage ρ}
    (h : t.answeredBy (tokenizer.paintWithin nesting) ≠ .error (.crash .endless))
    (hasks : t.Asks tokenizer.Paints inner) :
    tokenizer.paintWithin nesting inner ≠ .error (.crash .endless) := by
  induction hasks with
  | first => exact fun hendless => h (Inquiry.answeredBy_ask_error hendless)
  | @later passage next paint inner hpaints _ ih =>
    obtain ⟨n, hn⟩ := hpaints
    have hends : tokenizer.paintWithin nesting passage ≠ .error (.crash .endless) :=
      fun hendless => h (Inquiry.answeredBy_ask_error hendless)
    -- both nestings give the reply that a deeper one gives
    have hpaint : tokenizer.paintWithin nesting passage = .ok paint := by
      rw [← paintWithin_extends (Nat.le_max_left nesting n) passage hends,
        paintWithin_extends (Nat.le_max_right nesting n) passage (by rw [hn]; nofun), hn]
    rw [Inquiry.answeredBy_ask_ok hpaint] at h
    exact ih h

-- ---------------------------------------------------------------------------
-- Ends
-- ---------------------------------------------------------------------------

/-- Something is wrong with a pattern. -/
def IsBadRegex (e : Halt TokenizeError) : Prop :=
  ∃ pattern message, e = .error (.badRegex pattern message)

theorem not_isBadRegex_endless : ¬ IsBadRegex (.crash .endless) := by
  rintro ⟨pattern, message, ⟨⟩⟩

theorem compile_eq_error {engine : Engine ρ} (h : compile engine source = .error e) :
    ∃ message, engine.compile source = .error message ∧ e = .error (.badRegex source message) := by
  unfold compile at h
  cases hcompile : engine.compile source with
  | ok regex =>
    rw [hcompile] at h
    contradiction
  | error message =>
    rw [hcompile] at h
    exact ⟨message, rfl, (Except.error.inj h).symm⟩

theorem compile_isBadRegex {engine : Engine ρ} (h : compile engine source = .error e) :
    IsBadRegex e := by
  obtain ⟨message, -, heq⟩ := compile_eq_error h
  exact ⟨source, message, heq⟩

/-- A passage in a text, with rules of the library. -/
structure Inner (tokenizer : Tokenizer ρ) (text : String) (passage : Passage ρ) : Prop where
  within : passage.stack.Within tokenizer.toLibrary
  text : ∃ after, text = passage.text ++ after

theorem inquiring_compiles (tokenizer : Tokenizer ρ) (asked : Passage ρ → Prop) :
    (Inquiry.assertion IsBadRegex asked).Compiles tokenizer.inquiring := by
  intro source
  change (Inquiry.ofExcept (compile tokenizer.engine source)).Holds IsBadRegex asked _
  cases hcompile : compile tokenizer.engine source with
  | ok regex => trivial
  | error e => exact compile_isBadRegex hcompile

theorem query_ends (tokenizer : Tokenizer ρ) (text : String) :
    Rescan.Ends (Inquiry.assertion IsBadRegex (tokenizer.Inner text)) Inquiry.query
      tokenizer.toLibrary text :=
  fun _ hwithin htext => ⟨⟨hwithin, htext⟩, fun _ => trivial⟩

variable (hengine : tokenizer.engine.OnBoundaries) (hroot : tokenizer.RootStays)
include hengine

theorem inquiring_stopsAt : tokenizer.inquiring.StopsAt Text.IsBoundary :=
  ⟨hengine.stopsAt.found, hengine.stopsAt.cut, hengine.stopsAt.whole⟩

include hroot

theorem inquiry_holds {passage : Passage ρ} (hwithin : passage.stack.Within tokenizer.toLibrary) :
    (tokenizer.inquiry passage).Holds IsBadRegex (tokenizer.Inner passage.text) fun _ => True :=
  Passage.tokenize_ends (inquiring_compiles tokenizer _) (inquiring_stopsAt hengine) hroot
    (query_ends tokenizer passage.text) hwithin

theorem lineInquiry_holds (hwithin : stack.Within tokenizer.toLibrary) (line : String) :
    (tokenizer.lineInquiry stack line).Holds IsBadRegex (tokenizer.Inner (line ++ "\n"))
      fun (_, after) => after.Within tokenizer.toLibrary :=
  Context.tokenizeWith_ends (inquiring_compiles tokenizer _) (inquiring_stopsAt hengine) hroot
    (query_ends tokenizer (line ++ "\n")) hwithin

theorem tokenizeWithin_error (hwithin : stack.Within tokenizer.toLibrary)
    (h : tokenizer.context.tokenizeWithin nesting stack line = .error e) :
    IsBadRegex e ∨ e = .crash .endless := by
  have hcompile : (Assertion.except fun e => IsBadRegex e ∨ e = .crash .endless).Compiles
      tokenizer.context :=
    fun _ => ⟨fun _ _ => trivial, fun _ he => .inl (compile_isBadRegex he)⟩
  have hrescan : ∀ passage, passage.stack.Within tokenizer.toLibrary →
      (Assertion.except fun e => IsBadRegex e ∨ e = .crash .endless).holds
        (tokenizer.paintWithin nesting passage) fun _ => True := by
    refine Passage.tokenizeWithin_holds _ (Q := fun _ _ => True) (Or.inr rfl) ?_ nesting
    exact fun rescan hrescan passage hwithin => passage.tokenize_ends hcompile hengine.stopsAt hroot
      (fun inner hinner _ => hrescan inner hinner) hwithin
  exact (Context.tokenizeWith_ends hcompile hengine.stopsAt hroot
    (fun inner hinner _ => hrescan inner hinner) hwithin).2 e h

omit hengine hroot

/-- A line has tokens, or an error of a pattern, however deep passages may nest from some depth
on. -/
def Ends (tokenizer : Tokenizer ρ) (stack : Stack ρ) (line : String) : Prop :=
  ∃ answer, (∀ e, answer = .error e → IsBadRegex e) ∧ ∃ nesting, ∀ deeper, nesting ≤ deeper →
    tokenizer.context.tokenizeWithin deeper stack line = answer

include hengine hroot in
theorem ends_iff (hwithin : stack.Within tokenizer.toLibrary) :
    tokenizer.Ends stack line ↔
      ∃ nesting,
        tokenizer.context.tokenizeWithin nesting stack line ≠ .error (.crash .endless) := by
  constructor
  · rintro ⟨answer, herror, nesting, hanswer⟩
    refine ⟨nesting, fun h => not_isBadRegex_endless (herror _ ?_)⟩
    exact (hanswer nesting (Nat.le_refl _)).symm.trans h
  · rintro ⟨nesting, h⟩
    refine ⟨tokenizer.context.tokenizeWithin nesting stack line, fun e he => ?_, nesting,
      fun deeper hle => ?_⟩
    · rcases tokenizeWithin_error hengine hroot hwithin he with hbad | rfl
      · exact hbad
      · exact absurd he h
    · rw [tokenizeWithin_eq] at h ⊢
      rw [tokenizeWithin_eq]
      exact Inquiry.answeredBy_extends (paintWithin_extends hle) h

-- ---------------------------------------------------------------------------
-- Chains
-- ---------------------------------------------------------------------------

/-- Passages that come up while a line is tokenized. -/
inductive Nested (tokenizer : Tokenizer ρ) (stack : Stack ρ) (line : String) : Passage ρ → Prop
  | line {passage} : (tokenizer.lineInquiry stack line).Asks tokenizer.Paints passage →
      Nested tokenizer stack line passage
  | passage {outer inner} : Nested tokenizer stack line outer → tokenizer.Asks outer inner →
      Nested tokenizer stack line inner

/-- Passages each of which is asked for by the one before, without an end. -/
def IsChain (tokenizer : Tokenizer ρ) (chain : Nat → Passage ρ) : Prop :=
  ∀ i, tokenizer.Asks (chain i) (chain (i + 1))

theorem acc_of_paintingEnds {passage : Passage ρ} (h : tokenizer.PaintingEnds passage) :
    Acc (fun inner outer => tokenizer.Asks outer inner) passage := by
  obtain ⟨nesting, h⟩ := h
  induction nesting generalizing passage with
  | zero => exact absurd rfl h
  | succ nesting ih =>
    rw [paintWithin_succ] at h
    exact .intro _ fun inner hasks => ih (paintWithin_ends_of_asks h hasks)

include hengine hroot

theorem paintingEnds_of_acc {passage : Passage ρ}
    (hacc : Acc (fun inner outer => tokenizer.Asks outer inner) passage)
    (hwithin : passage.stack.Within tokenizer.toLibrary) : tokenizer.PaintingEnds passage := by
  induction hacc with
  | intro passage _ ih =>
    have hholds := inquiry_holds hengine hroot hwithin
    obtain ⟨nesting, h⟩ := answeredBy_ends hholds not_isBadRegex_endless fun inner hasks =>
      ih inner hasks (hasks.of_holds hholds).within
    exact ⟨nesting + 1, by rwa [paintWithin_succ]⟩

theorem Nested.within {line : String} {passage : Passage ρ}
    (hwithin : stack.Within tokenizer.toLibrary) (h : tokenizer.Nested stack line passage) :
    passage.stack.Within tokenizer.toLibrary := by
  induction h with
  | line hasks => exact (hasks.of_holds (lineInquiry_holds hengine hroot hwithin line)).within
  | passage _ hasks ih => exact (hasks.of_holds (inquiry_holds hengine hroot ih)).within

/-- A line comes to an end exactly if no chain begins at a passage that comes up. -/
theorem ends_iff_forall_not_chain (hwithin : stack.Within tokenizer.toLibrary) :
    tokenizer.Ends stack line ↔
      ∀ chain, tokenizer.Nested stack line (chain 0) → ¬ tokenizer.IsChain chain := by
  rw [ends_iff hengine hroot hwithin]
  constructor
  · rintro ⟨nesting, h⟩ chain hnested hchain
    have hacc : ∀ {passage}, tokenizer.Nested stack line passage →
        Acc (fun inner outer => tokenizer.Asks outer inner) passage := by
      intro passage hnested
      induction hnested with
      | line hasks =>
        rw [tokenizeWithin_eq] at h
        exact acc_of_paintingEnds ⟨nesting, paintWithin_ends_of_asks h hasks⟩
      | passage _ hasks ih => exact ih.inv hasks
    exact not_acc_iff_exists_descending_chain (r := fun inner outer => tokenizer.Asks outer inner)
      |>.mpr ⟨chain, rfl, hchain⟩ (hacc hnested)
  · intro hchains
    have hholds := lineInquiry_holds hengine hroot hwithin line
    obtain ⟨nesting, h⟩ := answeredBy_ends hholds not_isBadRegex_endless fun inner hasks => by
      refine paintingEnds_of_acc hengine hroot ?_ (hasks.of_holds hholds).within
      by_contra hacc
      obtain ⟨chain, rfl, hchain⟩ := not_acc_iff_exists_descending_chain.mp hacc
      exact hchains chain (.line hasks) hchain
    exact ⟨nesting, by rwa [tokenizeWithin_eq]⟩

theorem IsChain.inner {chain : Nat → Passage ρ} (hchain : tokenizer.IsChain chain)
    (hwithin : (chain 0).stack.Within tokenizer.toLibrary) (i : Nat) :
    tokenizer.Inner (chain i).text (chain (i + 1)) := by
  induction i with
  | zero => exact (hchain 0).of_holds (inquiry_holds hengine hroot hwithin)
  | succ i ih => exact (hchain (i + 1)).of_holds (inquiry_holds hengine hroot ih.within)

omit hengine hroot

theorem Inner.size_le {text : String} {passage : Passage ρ} (h : tokenizer.Inner text passage) :
    passage.text.utf8ByteSize ≤ text.utf8ByteSize := by
  obtain ⟨after, rfl⟩ := h.text
  rw [String.utf8ByteSize_append]
  omega

theorem Inner.text_eq {text : String} {passage : Passage ρ} (h : tokenizer.Inner text passage)
    (hsize : text.utf8ByteSize ≤ passage.text.utf8ByteSize) : passage.text = text := by
  obtain ⟨after, rfl⟩ := h.text
  rw [String.utf8ByteSize_append] at hsize
  obtain rfl := String.utf8ByteSize_eq_zero_iff.mp (by omega : after.utf8ByteSize = 0)
  simp

theorem exists_forall_eq (size : Nat → Nat) (h : ∀ i, size (i + 1) ≤ size i) :
    ∃ n, ∀ i, size (n + i) = size n := by
  obtain ⟨n, hn⟩ : ∃ n, ∀ i, size n ≤ size i :=
    ⟨Function.argmin size, fun i => Function.argmin_le size i⟩
  refine ⟨n, fun i => Nat.le_antisymm ?_ (hn _)⟩
  induction i with
  | zero => exact Nat.le_refl _
  | succ i ih => exact Nat.le_trans (h (n + i)) ih

theorem Nested.chain {line : String} {chain : Nat → Passage ρ} (hchain : tokenizer.IsChain chain)
    (h : tokenizer.Nested stack line (chain 0)) (n : Nat) :
    tokenizer.Nested stack line (chain n) := by
  induction n with
  | zero => exact h
  | succ n ih => exact .passage ih (hchain n)

include hengine hroot in
/-- The texts of a chain get no shorter from some passage on. -/
theorem IsChain.exists_text_eq {chain : Nat → Passage ρ} (hchain : tokenizer.IsChain chain)
    (hwithin : (chain 0).stack.Within tokenizer.toLibrary) :
    ∃ n, ∀ i, (chain (n + (i + 1))).text = (chain (n + i)).text := by
  have hinner := hchain.inner hengine hroot hwithin
  obtain ⟨n, hn⟩ := exists_forall_eq (fun i => (chain i).text.utf8ByteSize)
    fun i => (hinner i).size_le
  refine ⟨n, fun i => (hinner (n + i)).text_eq ?_⟩
  exact Nat.le_of_eq ((hn i).trans (hn (i + 1)).symm)

-- ---------------------------------------------------------------------------
-- Lines
-- ---------------------------------------------------------------------------

/-- The stacks that lines begin with, however deep passages nest. -/
inductive Reachable (tokenizer : Tokenizer ρ) : Stack ρ → Prop
  | initial : Reachable tokenizer tokenizer.initialStack
  | line {stack line nesting tokens after} : Reachable tokenizer stack →
      tokenizer.context.tokenizeWithin nesting stack line = .ok (tokens, after) →
      Reachable tokenizer after

theorem Reachable.within (hengine : tokenizer.engine.OnBoundaries) (hroot : tokenizer.RootStays)
    (h : tokenizer.Reachable stack) : stack.Within tokenizer.toLibrary := by
  induction h with
  | initial => exact Stack.within_initial _
  | line _ hline ih =>
    have hany : ∀ {α : Type} (x : Except (Halt TokenizeError) α),
        (Assertion.except fun _ => True).holds x fun _ => True :=
      fun x => ⟨fun _ _ => trivial, fun _ _ => trivial⟩
    exact (Context.tokenizeWith_ends (Assertion.except_compiles _) hengine.stopsAt hroot
      (fun _ _ _ => hany _) ih).1 _ hline

/-- A line ends exactly if no passage that comes up asks for its own text anew, within itself and
without an end. -/
theorem ends_iff_no_chain (hengine : tokenizer.engine.OnBoundaries)
    (hbase : Grammar.compile tokenizer.engine written = .ok tokenizer.base)
    (hstack : tokenizer.Reachable stack) (line : String) :
    tokenizer.Ends stack line ↔
      ¬ ∃ chain, tokenizer.Nested stack line (chain 0) ∧ tokenizer.IsChain chain ∧
        ∀ i, (chain (i + 1)).text = (chain i).text := by
  have hroot : tokenizer.RootStays := by
    obtain ⟨patterns, hrule⟩ := Grammar.compile_root hbase
    rw [Library.RootStays, RuleRef.rule, RuleRef.root, hrule]
    rfl
  have hwithin := hstack.within hengine hroot
  rw [ends_iff_forall_not_chain hengine hroot hwithin]
  constructor
  · rintro hchains ⟨chain, hnested, hchain, -⟩
    exact hchains chain hnested hchain
  · intro hchains chain hnested hchain
    obtain ⟨n, hn⟩ := hchain.exists_text_eq hengine hroot (hnested.within hengine hroot hwithin)
    exact hchains ⟨fun i => chain (n + i), hnested.chain hchain n, fun i => hchain (n + i), hn⟩

/-- A rule whose match is tokenized again from the top level. -/
def selfCapture : Written.Grammar where
  scopeName := "source.x"
  patterns := [
    { matching := "(a)", captures := [("1", { patterns := [{ reference := "$self" }] })] }]

def selfCaptureMatch : Found := ⟨0, 1, [some ⟨0, 1⟩, some ⟨0, 1⟩]⟩

/-- What is found in `a`, as a line and as the text of a capture. -/
def selfCaptureEngine : Engine String := .answering [
  (("(a)", "a\n", 0), selfCaptureMatch), (("(a)", "a", 0), selfCaptureMatch)]

theorem selfCaptureEngine_onBoundaries : selfCaptureEngine.OnBoundaries := .of_answers (by decide)

/-- The grammar with its rules: the capture, the match and the top level. -/
def selfCaptured : Grammar String where
  scopeName := "source.x"
  name := none
  rules := #[.group none [.self], .matching none "(a)" [(1, 0)], .group none [.rule 1]]
  root := 2
  repository := []

theorem compile_selfCapture : Grammar.compile selfCaptureEngine selfCapture = .ok selfCaptured := by
  decide +kernel

/-- The tokenizer for it. -/
def selfCapturing : Tokenizer String := alone selfCaptureEngine selfCaptured

/-- The stacks on which the match is found again: in the line at the top level, and in the text of
the capture with its rule on top. -/
structure FindsItself (stack : Stack String) (text : String) : Prop where
  firstLine : stack.firstLine = true
  top : ∃ scopes entered, (stack.top = .new ⟨selfCaptured, 2⟩ scopes entered ∧ text = "a\n") ∨
    (stack.top = .new ⟨selfCaptured, 0⟩ scopes entered ∧ text = "a")

namespace FindsItself

variable {stack : Stack String} {text : String} (h : FindsItself stack text)
include h

theorem findMatch : selfCapturing.context.findMatch stack.top text 0 ⟨true, false⟩ =
    .ok (some (.rule ⟨selfCaptured, 1⟩, selfCaptureMatch)) := by
  -- the scopes of a frame have no part in a search
  obtain ⟨scopes, entered, ⟨htop, rfl⟩ | ⟨htop, rfl⟩⟩ := h.top
  · rw [htop]
    change selfCapturing.context.findMatch (.new ⟨selfCaptured, 2⟩ [] none) _ _ _ = _
    decide +kernel
  · rw [htop]
    change selfCapturing.context.findMatch (.new ⟨selfCaptured, 0⟩ [] none) _ _ _ = _
    decide +kernel

theorem slice : Text.slice? text ⟨0, 1⟩ = some "a" := by
  obtain ⟨scopes, entered, ⟨-, rfl⟩ | ⟨-, rfl⟩⟩ := h.top <;> decide +kernel

theorem step {rescan : Rescan (Except (Halt TokenizeError)) String}
    (hrescan : ∀ passage, passage.start = 0 → FindsItself passage.stack passage.text →
      rescan passage = .error (.crash .endless)) (paint : Paint) :
    Scan.step selfCapturing.context rescan text ⟨stack, 0, none, paint⟩ =
      .error (.crash .endless) := by
  have hmatch : Scan.Matches selfCapturing.context text ⟨stack, 0, none, paint⟩
      (.pass ⟨selfCaptured, 1⟩ [(1, 0)]) selfCaptureMatch := by
    refine ⟨.rule ⟨selfCaptured, 1⟩, ?_, rfl⟩
    have hanchors : Scan.anchors ⟨stack, 0, none, paint⟩ = ⟨true, false⟩ := by
      simp [Scan.anchors, h.firstLine]
    rw [hanchors]
    exact h.findMatch
  have hpatterns : ¬ (selfCaptured.rule 0).patterns.isEmpty := by decide
  refine hmatch.step_error (Scan.paint_error (show _ = [(1, 0)] from rfl) rfl (by decide)
    hpatterns (fun scopes => ?_) _ _)
  have hpassage : (Scan.capturing ⟨stack, 0, none, paint⟩ text selfCaptureMatch
      (.pass ⟨selfCaptured, 1⟩ [(1, 0)])).passage? 0 scopes ⟨0, 1⟩ =
        some ⟨_, "a", 0⟩ := congrArg (Option.map _) h.slice
  rw [Capturing.nested_eq hpassage]
  exact hrescan _ rfl ⟨h.firstLine, scopes, some 0, .inr ⟨rfl, rfl⟩⟩

end FindsItself

theorem selfCapturing_paintWithin (nesting : Nat) (passage : Passage String)
    (hstart : passage.start = 0) (h : FindsItself passage.stack passage.text) :
    selfCapturing.paintWithin nesting passage = .error (.crash .endless) := by
  induction nesting generalizing passage with
  | zero => rfl
  | succ nesting ih =>
    obtain ⟨stack, text, start⟩ := passage
    obtain rfl : start = 0 := hstart
    have hscan := Scan.toEnd_error (h.step ih (.startingAt 0))
    exact congrArg (· >>= fun result => .ok result.2) hscan

theorem selfCapturing_tokenizeWithin (nesting : Nat) :
    selfCapturing.context.tokenizeWithin nesting selfCapturing.initialStack "a" =
      .error (.crash .endless) := by
  have hfirst : FindsItself selfCapturing.initialStack ("a" ++ "\n") :=
    ⟨rfl, ["source.x"], none, .inl ⟨rfl, rfl⟩⟩
  have hscan := Scan.toEnd_error
    (hfirst.step (selfCapturing_paintWithin nesting) (.startingAt 0))
  exact congrArg
    (· >>= fun result => .ok (result.2.tokens 1 result.1.scopes, result.1.endLine)) hscan

theorem selfCapturing_not_ends : ¬ selfCapturing.Ends selfCapturing.initialStack "a" := by
  rintro ⟨answer, herror, nesting, hanswer⟩
  have hendless :=
    (hanswer nesting (Nat.le_refl _)).symm.trans (selfCapturing_tokenizeWithin nesting)
  exact not_isBadRegex_endless (herror _ hendless)

theorem ends_iff_no_chain_selfCapture :
    ∃ chain, selfCapturing.Nested selfCapturing.initialStack "a" (chain 0) ∧
      selfCapturing.IsChain chain ∧ ∀ i, (chain (i + 1)).text = (chain i).text := by
  have hends : selfCapturing.Ends selfCapturing.initialStack "a" ↔ _ :=
    ends_iff_no_chain selfCaptureEngine_onBoundaries compile_selfCapture .initial "a"
  by_contra hchain
  exact selfCapturing_not_ends (hends.mpr hchain)

/-- At no depth of nesting does the line `a` come to an end. -/
theorem selfCapture_endless : Grammar.compile selfCaptureEngine selfCapture = .ok selfCaptured ∧
    selfCaptureEngine.OnBoundaries ∧ ¬ selfCapturing.Ends selfCapturing.initialStack "a" ∧
      ∀ nesting, selfCapturing.context.tokenizeWithin nesting selfCapturing.initialStack "a" =
        .error (.crash .endless) :=
  ⟨compile_selfCapture, selfCaptureEngine_onBoundaries, selfCapturing_not_ends,
    selfCapturing_tokenizeWithin⟩

end LineScopes.Tokenizer
