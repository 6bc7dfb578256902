import LineScopes.LineTokenizer
import LineScopes.Proofs.Agreement

/-!
# Remembered patterns change nothing

A tokenizer remembers the patterns it has compiled, whatever lines it was
given and whether it failed on them. What it remembers of a pattern is what
compiling the pattern would give again, so that a tokenizer that remembers
comes to the same results as one that does not.
-/

namespace LineScopes.Tokenizer

/-- What is remembered of a pattern is what compiling it gives. -/
def Faithful (engine : Engine ρ) (compiled : Compiled ρ) : Prop :=
  ∀ source regex, (source, regex) ∈ compiled → engine.compile source = .ok regex

theorem faithful_nil (engine : Engine ρ) : Faithful engine [] := nofun

/-- A run that remembers comes to the result of one that does not. -/
def remembering (engine : Engine ρ) :
    Agreement (EStateM (Halt TokenizeError) (Compiled ρ)) (Except (Halt TokenizeError)) where
  agree x y := ∀ compiled, Faithful engine compiled → match x compiled with
    | .ok a compiled' => y = .ok a ∧ Faithful engine compiled'
    | .error e compiled' => y = .error e ∧ Faithful engine compiled'
  pure a := fun _ h => ⟨rfl, h⟩
  bind {_ _ x y f g} hx hf := by
    intro compiled h
    have hrun := hx compiled h
    change match EStateM.bind x f compiled with
      | .ok b compiled' => y.bind g = .ok b ∧ Faithful engine compiled'
      | .error e compiled' => y.bind g = .error e ∧ Faithful engine compiled'
    unfold EStateM.bind
    cases hr : x compiled with
    | ok a compiled' =>
      simp only [hr] at hrun
      obtain ⟨rfl, h⟩ := hrun
      exact hf a compiled' h
    | error e compiled' =>
      simp only [hr] at hrun
      obtain ⟨rfl, h⟩ := hrun
      exact ⟨rfl, h⟩
  throw e := fun _ h => ⟨rfl, h⟩

theorem compile_eq_ok {engine : Engine ρ} :
    compile engine source = .ok regex ↔ engine.compile source = .ok regex := by
  unfold compile
  cases engine.compile source with
  | ok regex' =>
    -- the two sides have errors of different types
    exact ⟨fun h => congrArg _ (Except.ok.inj h), fun h => congrArg _ (Except.ok.inj h)⟩
  | error message => exact ⟨nofun, nofun⟩

theorem compileOnce_eq (engine : Engine ρ) (source : String) (compiled : Compiled ρ) :
    compileOnce engine source compiled = match compiled.lookup source with
      | some regex => .ok regex compiled
      | none => match compile engine source with
        | .ok regex => .ok regex ((source, regex) :: compiled)
        | .error e => .error e compiled := by
  have hget : (get : EStateM (Halt TokenizeError) (Compiled ρ) (Compiled ρ)) compiled =
      .ok compiled compiled := rfl
  simp only [compileOnce, bind, EStateM.bind, hget]
  cases compiled.lookup source with
  | some regex => rfl
  | none => cases compile engine source <;> rfl

theorem compileOnce_agree (engine : Engine ρ) (source : String) :
    (remembering engine).agree (compileOnce engine source) (compile engine source) := by
  intro compiled h
  rw [compileOnce_eq]
  cases hlookup : compiled.lookup source with
  | some regex =>
    obtain ⟨before, after, rfl, -⟩ := List.lookup_eq_some_iff.mp hlookup
    exact ⟨compile_eq_ok.mpr (h source regex (by simp)), h⟩
  | none =>
    cases hcompile : compile engine source with
    | error e => exact ⟨rfl, h⟩
    | ok regex =>
      refine ⟨rfl, ?_⟩
      intro source' regex' hmem
      rcases List.mem_cons.mp hmem with heq | hmem
      · obtain ⟨rfl, rfl⟩ := Prod.mk.inj heq
        exact compile_eq_ok.mp hcompile
      · exact h source' regex' hmem

theorem rememberingContext_agrees (tokenizer : Tokenizer ρ) :
    (remembering tokenizer.engine).Contexts tokenizer.rememberingContext tokenizer.context :=
  ⟨rfl, rfl, compileOnce_agree tokenizer.engine⟩

theorem tokenizeNext_agree (tokenizer : Tokenizer ρ) (stack : Stack ρ) (line : String) :
    (remembering tokenizer.engine).agree (tokenizer.tokenizeNext stack line)
      (tokenizer.tokenizeLine stack line) :=
  Context.tokenizeWithin_agree tokenizer.rememberingContext_agrees tokenizer.maxNesting stack line

/-- Whatever is remembered, a line that is tokenized once is always tokenized the same way. -/
theorem tokenizeNext_ok {tokenizer : Tokenizer ρ} {compiled other : Compiled ρ}
    (hcompiled : Faithful tokenizer.engine compiled) (hother : Faithful tokenizer.engine other)
    (h : tokenizer.tokenizeNext stack line compiled = .ok result compiled') :
    Faithful tokenizer.engine compiled' ∧ ∃ other',
      tokenizer.tokenizeNext stack line other = .ok result other' ∧
        Faithful tokenizer.engine other' := by
  have hpure := tokenizer.tokenizeNext_agree stack line compiled hcompiled
  have hrun := tokenizer.tokenizeNext_agree stack line other hother
  rw [h] at hpure
  obtain ⟨hpure, hcompiled'⟩ := hpure
  refine ⟨hcompiled', ?_⟩
  cases hr : tokenizer.tokenizeNext stack line other with
  | ok result' other' =>
    rw [hr] at hrun
    obtain ⟨heq, hother'⟩ := hrun
    obtain rfl := Except.ok.inj (hpure.symm.trans heq)
    exact ⟨other', rfl, hother'⟩
  | error e other' =>
    rw [hr] at hrun
    obtain ⟨heq, -⟩ := hrun
    rw [hpure] at heq
    contradiction

/-- What a tokenizer can remember of the lines that it was given, on whatever stacks. -/
inductive Used (tokenizer : Tokenizer ρ) : Compiled ρ → Prop
  | fresh : Used tokenizer []
  | ok {stack line result compiled compiled'} : Used tokenizer compiled →
      tokenizer.tokenizeNext stack line compiled = .ok result compiled' → Used tokenizer compiled'
  | error {stack line e compiled compiled'} : Used tokenizer compiled →
      tokenizer.tokenizeNext stack line compiled = .error e compiled' → Used tokenizer compiled'

variable {tokenizer : Tokenizer ρ} {compiled compiled' : Compiled ρ}

theorem Used.faithful (h : tokenizer.Used compiled) : Faithful tokenizer.engine compiled := by
  induction h with
  | fresh => exact faithful_nil _
  | @ok stack line _ compiled _ _ hrun ih =>
    have := tokenizer.tokenizeNext_agree stack line compiled ih
    rw [hrun] at this
    exact this.2
  | @error stack line _ compiled _ _ hrun ih =>
    have := tokenizer.tokenizeNext_agree stack line compiled ih
    rw [hrun] at this
    exact this.2

end LineScopes.Tokenizer
