import LineScopes.Proofs.Settling

/-!
# A tokenizer has no history

A line comes to the same on any stack, whatever lines the tokenizer was given
before and whether it failed on them: to what it comes to with a tokenizer
that was given none.
-/

namespace LineScopes

/-- What a computation comes to from a state, without the state that it leaves. -/
def outcome (x : EStateM ε σ α) (s : σ) : Except ε α :=
  match x s with
  | .ok a _ => .ok a
  | .error e _ => .error e

namespace Tokenizer

variable {tokenizer : Tokenizer ρ} {compiled : Compiled ρ}

theorem outcome_tokenizeNext (hused : tokenizer.Used compiled) (stack : Stack ρ) (line : String) :
    outcome (tokenizer.tokenizeNext stack line) compiled = tokenizer.tokenizeLine stack line := by
  have hagree := tokenizer.tokenizeNext_agree stack line compiled hused.faithful
  unfold outcome
  split at hagree
  · next h => rw [h, hagree.1]
  · next h => rw [h, hagree.1]

theorem Faithful.lookup_eq_none {engine : Engine ρ} (h : Faithful engine compiled)
    (hsource : engine.compile source = .error message) : compiled.lookup source = none := by
  by_contra hsome
  obtain ⟨regex, hlookup⟩ := Option.ne_none_iff_exists'.mp hsome
  obtain ⟨before, after, rfl, -⟩ := List.lookup_eq_some_iff.mp hlookup
  have := h source regex (by simp)
  rw [hsource] at this
  contradiction

/-- Whatever lines a tokenizer was given, and on whatever stacks, a line comes to what it comes to
with a fresh tokenizer. What is remembered of a pattern is what compiling it gives, and a pattern
that cannot be compiled leaves no trace. -/
theorem tokenizeNext_fresh (hused : tokenizer.Used compiled) :
    (∀ stack line, outcome (tokenizer.tokenizeNext stack line) compiled =
      outcome (tokenizer.tokenizeNext stack line) []) ∧
    Faithful tokenizer.engine compiled ∧
    ∀ source message, tokenizer.engine.compile source = .error message →
      compiled.lookup source = none ∧
        compileOnce tokenizer.engine source compiled =
          .error (.error (.badRegex source message)) compiled := by
  refine ⟨fun stack line => ?_, hused.faithful, fun source message hsource => ?_⟩
  · rw [outcome_tokenizeNext hused, outcome_tokenizeNext .fresh]
  · have hnone := hused.faithful.lookup_eq_none hsource
    refine ⟨hnone, ?_⟩
    rw [compileOnce_eq, hnone, compile, hsource]
    rfl

/-- Text that ends with the letter that it begins with, and a rule whose end pattern is never
one. -/
def echoes : Written.Grammar where
  scopeName := "source.x"
  patterns := [
    { name := "echo.x", opening := "<(a|b)", closing := "\\1" },
    { name := "broken.x", opening := "!(a|b)", closing := "\\1(" }]

/-- The tokenizer was given two lines, and has failed on the second one. -/
theorem tokenizeNext_fresh_echoes : ∃ grammar tokens after e compiled compiled',
    Grammar.compile Regex.engine echoes = .ok grammar ∧
      (alone Regex.engine grammar).tokenizeNext (.initial grammar) "<a" [] =
        .ok (tokens, after) compiled ∧
      (alone Regex.engine grammar).tokenizeNext after "a!b" compiled = .error e compiled' ∧
      compiled'.map (·.1) = ["a"] ∧
      outcome ((alone Regex.engine grammar).tokenizeNext after "ca") compiled' =
        outcome ((alone Regex.engine grammar).tokenizeNext after "ca") [] := by
  have hrun : ∃ grammar, Grammar.compile Regex.engine echoes = .ok grammar ∧
      ∃ line compiled, (alone Regex.engine grammar).tokenizeNext (.initial grammar) "<a" [] =
        .ok line compiled ∧
      ∃ e compiled', (alone Regex.engine grammar).tokenizeNext line.2 "a!b" compiled =
        .error e compiled' ∧ compiled'.map (·.1) = ["a"] := by decide +kernel
  obtain ⟨grammar, hgrammar, ⟨tokens, after⟩, compiled, hfirst, e, compiled', hsecond, hcompiled⟩ :=
    hrun
  exact ⟨grammar, tokens, after, e, compiled, compiled', hgrammar, hfirst, hsecond, hcompiled,
    (tokenizeNext_fresh (.error (.ok .fresh hfirst) hsecond)).1 after "ca"⟩

end Tokenizer

end LineScopes
