import LineScopes.Tokenizer.Line

/-!
# The tokenizer in two monads

The same functions run in monads that compile patterns, and tokenize the
texts of captures, each in its own way. Where the two ways agree, so do the
functions.
-/

namespace LineScopes

/-- What it means that computations in two monads come to the same. -/
structure Agreement (m n : Type → Type) [Monad m] [MonadExceptOf (Halt TokenizeError) m] [Monad n]
    [MonadExceptOf (Halt TokenizeError) n] where
  agree {α : Type} : m α → n α → Prop
  pure {α : Type} (a : α) : agree (Pure.pure a) (Pure.pure a)
  bind {α β : Type} {x : m α} {y : n α} {f : α → m β} {g : α → n β} :
    agree x y → (∀ a, agree (f a) (g a)) → agree (x >>= f) (y >>= g)
  throw {α : Type} (e : Halt TokenizeError) : agree (throw e : m α) (throw e : n α)

/-- Contexts that differ only in how patterns are compiled. -/
structure Agreement.Contexts {m n : Type → Type} [Monad m] [MonadExceptOf (Halt TokenizeError) m]
    [Monad n] [MonadExceptOf (Halt TokenizeError) n] (A : Agreement m n) (c : Context m ρ)
    (d : Context n ρ) : Prop where
  library : c.toLibrary = d.toLibrary
  search : c.search = d.search
  compile : ∀ source, A.agree (c.compile source) (d.compile source)

variable {m n : Type → Type} [Monad m] [MonadExceptOf (Halt TokenizeError) m] [Monad n]
  [MonadExceptOf (Halt TokenizeError) n] {A : Agreement m n} {c : Context m ρ} {d : Context n ρ}
  {rescan : Rescan m ρ} {rescan' : Rescan n ρ}

/-- Passages are tokenized alike. -/
def Agreement.Rescans (A : Agreement m n) (rescan : Rescan m ρ) (rescan' : Rescan n ρ) : Prop :=
  ∀ passage, A.agree (rescan passage) (rescan' passage)

-- ---------------------------------------------------------------------------
-- The next match
-- ---------------------------------------------------------------------------

namespace Agreement.Contexts

theorem earliest_eq (h : A.Contexts c d) (text : String) (pos : Nat) (anchors : Anchors)
    (refs : List (RuleRef ρ)) (best : Option (RuleRef ρ × Found)) :
    c.earliest text pos anchors refs best = d.earliest text pos anchors refs best := by
  induction refs generalizing best with
  | nil => rfl
  | cons ref rest ih => simp only [Context.earliest, h.search, ih]

theorem endRegex_agree (h : A.Contexts c d) (frame : Frame ρ) (pattern : EndPattern ρ) :
    A.agree (c.endRegex frame pattern) (d.endRegex frame pattern) := by
  unfold Context.endRegex
  cases frame.ending with
  | some source => exact h.compile source
  | none =>
    cases pattern with
    | static regex => exact A.pure regex
    | dynamic source => exact h.compile source

theorem matchClosing_agree (h : A.Contexts c d) (frame : Frame ρ) (text : String) (pos : Nat)
    (anchors : Anchors) :
    A.agree (c.matchClosing frame text pos anchors) (d.matchClosing frame text pos anchors) := by
  unfold Context.matchClosing
  cases frame.rule.closing? with
  | none => exact A.pure none
  | some pattern =>
    refine A.bind (h.endRegex_agree frame pattern) fun regex => ?_
    rw [h.search]
    exact A.pure _

theorem findMatch_agree (h : A.Contexts c d) (frame : Frame ρ) (text : String) (pos : Nat)
    (anchors : Anchors) :
    A.agree (c.findMatch frame text pos anchors) (d.findMatch frame text pos anchors) := by
  unfold Context.findMatch
  refine A.bind (h.matchClosing_agree frame text pos anchors) fun closing => ?_
  rw [h.earliest_eq, h.library]
  exact A.pure _

end Agreement.Contexts

-- ---------------------------------------------------------------------------
-- Captures
-- ---------------------------------------------------------------------------

namespace Agreement.Rescans

theorem nested_agree (h : A.Rescans rescan rescan') (capturing : Capturing ρ) (id : RuleId)
    (scopes : List String) (span : Text.Span) :
    A.agree (capturing.nested rescan id scopes span)
      (capturing.nested rescan' id scopes span) := by
  unfold Capturing.nested
  cases capturing.passage? id scopes span with
  | some passage => exact h passage
  | none => exact A.throw _

theorem paintFrom_agree (h : A.Rescans rescan rescan') (capturing : Capturing ρ)
    (captures : Captures) (around : List OpenCapture) (paint : Paint) :
    A.agree (capturing.paintFrom rescan captures around paint)
      (capturing.paintFrom rescan' captures around paint) := by
  induction captures generalizing around paint with
  | nil => exact A.pure _
  | cons capture rest ih =>
    obtain ⟨group, id⟩ := capture
    simp only [Capturing.paintFrom]
    cases (capturing.found.groups[group]?).join with
    | none => exact ih around paint
    | some span =>
      by_cases hempty : span.start = span.stop
      · simp only [if_pos hempty]
        exact ih around paint
      · simp only [if_neg hempty]
        by_cases hpatterns : (capturing.grammar.rule id).patterns.isEmpty
        · simp only [hpatterns, not_true_eq_false, if_false]
          split
          · exact ih _ _
          · exact ih _ _
        · simp only [hpatterns, Bool.false_eq_true, not_false_eq_true, if_true]
          exact A.bind (h.nested_agree capturing id _ span) fun painted => ih _ _

theorem paint_agree (h : A.Rescans rescan rescan') (capturing : Capturing ρ)
    (before : List String) (paint : Paint) :
    A.agree (capturing.paint rescan before paint) (capturing.paint rescan' before paint) :=
  A.bind (h.paintFrom_agree capturing _ [] _) fun _ => A.pure _

end Agreement.Rescans

-- ---------------------------------------------------------------------------
-- Scans
-- ---------------------------------------------------------------------------

namespace Scan

theorem step_agree (h : A.Contexts c d) (hrescan : A.Rescans rescan rescan') (text : String)
    (scan : Scan ρ) : A.agree (step c rescan text scan) (step d rescan' text scan) := by
  unfold step
  refine A.bind (h.findMatch_agree _ _ _ _) fun best => ?_
  cases best with
  | none => exact A.pure _
  | some best =>
    obtain ⟨target, found⟩ := best
    cases hmove : target.move? with
    | none =>
      simp only [hmove]
      exact A.pure _
    | some move =>
      simp only [hmove]
      exact A.bind (hrescan.paint_agree _ _ _) fun paint => A.pure _

theorem run_agree (h : A.Contexts c d) (hrescan : A.Rescans rescan rescan') (text : String)
    (steps : Nat) (scan : Scan ρ) :
    A.agree (run c rescan text steps scan) (run d rescan' text steps scan) := by
  induction steps generalizing scan with
  | zero => exact A.throw _
  | succ steps ih =>
    refine A.bind (step_agree h hrescan text scan) fun next => ?_
    cases next with
    | next scan => exact ih scan
    | done stack paint => exact A.pure _

theorem toEnd_agree (h : A.Contexts c d) (hrescan : A.Rescans rescan rescan') (text : String)
    (scan : Scan ρ) : A.agree (toEnd c rescan text scan) (toEnd d rescan' text scan) := by
  unfold toEnd steps
  rw [h.library]
  exact run_agree h hrescan text _ scan

theorem continueFrames_agree (h : A.Contexts c d) (hrescan : A.Rescans rescan rescan')
    (text : String) (below above : List (Frame ρ)) (scan : Scan ρ) :
    A.agree (continueFrames c rescan text below above scan)
      (continueFrames d rescan' text below above scan) := by
  induction above generalizing below scan with
  | nil => exact A.pure scan
  | cons frame above ih =>
    simp only [continueFrames]
    cases frame.rule.condition? with
    | none => exact ih _ scan
    | some condition =>
      have hfind : A.agree (findCondition c text frame condition scan)
          (findCondition d text frame condition scan) := by
        unfold findCondition
        rw [h.search]
        exact A.bind (h.endRegex_agree frame condition) fun regex => A.pure _
      refine A.bind hfind fun best => ?_
      cases best with
      | none => exact A.pure _
      | some found => exact A.bind (hrescan.paint_agree _ _ _) fun paint => ih _ _

end Scan

theorem Passage.tokenize_agree (h : A.Contexts c d) (hrescan : A.Rescans rescan rescan')
    (passage : Passage ρ) :
    A.agree (passage.tokenize c rescan) (passage.tokenize d rescan') :=
  A.bind (Scan.toEnd_agree h hrescan _ _) fun _ => A.pure _

theorem Passage.tokenizeWithin_agree (h : A.Contexts c d) (nesting : Nat) :
    A.Rescans (tokenizeWithin c nesting) (tokenizeWithin d nesting) := by
  induction nesting with
  | zero => exact fun _ => A.throw _
  | succ nesting ih => exact fun passage => passage.tokenize_agree h ih

-- ---------------------------------------------------------------------------
-- Lines
-- ---------------------------------------------------------------------------

theorem Context.tokenizeWith_agree (h : A.Contexts c d) (hrescan : A.Rescans rescan rescan')
    (stack : Stack ρ) (line : String) :
    A.agree (c.tokenizeWith rescan stack line) (d.tokenizeWith rescan' stack line) := by
  refine A.bind (Scan.continueFrames_agree h hrescan _ _ _ _) fun scan => ?_
  exact A.bind (Scan.toEnd_agree h hrescan _ scan) fun _ => A.pure _

theorem Context.tokenizeWithin_agree (h : A.Contexts c d) (nesting : Nat) (stack : Stack ρ)
    (line : String) :
    A.agree (c.tokenizeWithin nesting stack line) (d.tokenizeWithin nesting stack line) :=
  tokenizeWith_agree h (Passage.tokenizeWithin_agree h nesting) stack line

end LineScopes
