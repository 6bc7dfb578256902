import LineScopes.Proofs.BackReferences
import LineScopes.Proofs.Carrying

/-!
# Stacks between lines

Only rules that stay open are left on the stack when a line is done. Each of
them has the pattern that it waits for, with the captured text in it, and
nothing on the stack speaks of a position within the line.
-/

namespace LineScopes

/-- The rule of a frame waits for a pattern, which the frame has in place of the rule exactly if it
refers back to the begin match. -/
structure Frame.Waits (frame : Frame ρ) (pattern : EndPattern ρ) : Prop where
  awaits : frame.rule.Awaits pattern
  ending : frame.ending.isSome ↔ ∃ source, pattern = .dynamic source
  resolved : ∀ source, frame.ending = some source → ¬ BackReference.isIn source

theorem Frame.Waits.congr {frame other : Frame ρ} (h : frame.Waits pattern)
    (howner : other.owner = frame.owner) (hending : other.ending = frame.ending) :
    other.Waits pattern where
  awaits := by rw [Frame.rule, howner]; exact h.awaits
  ending := by rw [hending]; exact h.ending
  resolved := by rw [hending]; exact h.resolved

/-- What a stack is between two lines. -/
structure Stack.Settled (stack : Stack ρ) : Prop where
  frames : stack.Each fun frame => ∃ pattern, frame.Waits pattern
  positions : ∀ frame ∈ stack.frames ++ [stack.root], frame.entered = none ∧ frame.anchor = none
  firstLine : stack.firstLine = false

theorem Stack.settled_endLine {stack : Stack ρ}
    (h : stack.Each fun frame => ∃ pattern, frame.Waits pattern) : stack.endLine.Settled where
  frames := h.endLine fun _ ⟨pattern, hframe⟩ => ⟨pattern, hframe.congr rfl rfl⟩
  positions := stack.positions_endLine
  firstLine := rfl

theorem Scan.waits_opened (scan : Scan ρ) (text : String) (found : Found) {ref : RuleRef ρ}
    (h : ref.rule.Awaits ending) : (scan.opened text found ref ending).Waits ending := by
  cases ending with
  | static regex => exact ⟨h, ⟨nofun, nofun⟩, nofun⟩
  | dynamic source =>
    refine ⟨h, ⟨fun _ => ⟨source, rfl⟩, fun _ => rfl⟩, ?_⟩
    rintro _ ⟨⟩
    exact BackReference.not_isIn_resolve source found.groups text

namespace Tokenizer

variable {tokenizer : Tokenizer ρ} {stack after : Stack ρ} {compiled compiled' : Compiled ρ}

theorem tokenizeWithin_waits
    (h : tokenizer.context.tokenizeWithin nesting stack line = .ok (tokens, after))
    (hstack : stack.Each fun frame => ∃ pattern, frame.Waits pattern) :
    ∃ last : Stack ρ, (last.Each fun frame => ∃ pattern, frame.Waits pattern) ∧
      after = last.endLine := by
  refine tokenizeWithin_keeps ?_ ?_ (fun _ _ _ hframes h => h.cut hframes) h hstack
  · intro text scan move found hmakes h
    refine Scan.each_after h fun ref captures ending hmove => ⟨ending, ?_⟩
    subst hmove
    exact scan.waits_opened text found hmakes.awaits
  · intro text scan move found _ h
    have hend : ∀ frame : Frame ρ, (∃ pattern, frame.Waits pattern) →
        ∃ pattern, frame.atEnd.Waits pattern :=
      fun frame ⟨pattern, hframe⟩ => ⟨pattern, hframe.congr rfl rfl⟩
    exact Scan.each_stuck h hend text found move

theorem Reachable.waits (h : tokenizer.Reachable stack) :
    stack.Each fun frame => ∃ pattern, frame.Waits pattern := by
  induction h with
  | initial => exact nofun
  | line _ hline ih =>
    obtain ⟨last, hlast, rfl⟩ := tokenizeWithin_waits hline ih
    exact (Stack.settled_endLine hlast).frames

/-- Between lines the stack has only rules that stay open, with the patterns that they wait for,
and no positions. -/
theorem tokenizeNext_settled (hstack : tokenizer.Reachable stack) (hused : tokenizer.Used compiled)
    (h : tokenizer.tokenizeNext stack line compiled = .ok (tokens, after) compiled') :
    after.Settled := by
  obtain ⟨last, hlast, rfl⟩ := tokenizeWithin_waits (tokenizeLine_of_next hused h) hstack.waits
  exact Stack.settled_endLine hlast

/-- Text that ends with the word that it begins with. -/
def heredoc : Written.Grammar where
  scopeName := "source.x"
  patterns := [{ name := "string.x", opening := "<<(\\w+)", closing := "^\\1$" }]

/-- What is found in `a <<b`. -/
def heredocEngine : Engine String := .answering [
  (("<<(\\w+)", "a <<b\n", 0), ⟨2, 5, [some ⟨2, 5⟩, some ⟨4, 5⟩]⟩)]

theorem tokenizeNext_settled_heredoc : ∃ grammar tokens after compiled,
    Grammar.compile heredocEngine heredoc = .ok grammar ∧
      (alone heredocEngine grammar).tokenizeNext (.initial grammar) "a <<b" [] =
        .ok (tokens, after) compiled ∧
      after.frames.map (·.ending) = [some "^b$"] ∧ after.Settled := by
  have hrun : ∃ grammar, Grammar.compile heredocEngine heredoc = .ok grammar ∧
      ∃ line compiled, (alone heredocEngine grammar).tokenizeNext (.initial grammar) "a <<b" [] =
        .ok line compiled ∧ line.2.frames.map (·.ending) = [some "^b$"] := by decide +kernel
  obtain ⟨grammar, hgrammar, ⟨tokens, after⟩, compiled, hline, hending⟩ := hrun
  exact ⟨grammar, tokens, after, compiled, hgrammar, hline, hending,
    tokenizeNext_settled .initial .fresh hline⟩

end Tokenizer

end LineScopes
