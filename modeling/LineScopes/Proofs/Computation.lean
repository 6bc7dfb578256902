import LineScopes.Tokenizer.Line

/-!
# Assertions about computations

The tokenizer is written over any monad that can fail, and runs in several:
one that fails and no more, one that remembers compiled patterns besides. An
assertion lets one proof speak of all of them. What a computation without
unknowns comes to can be decided by running it.
-/

namespace LineScopes

@[simp] theorem ok_bind (a : α) (f : α → Except ε β) : .ok a >>= f = f a := rfl

@[simp] theorem error_bind (e : ε) (f : α → Except ε β) : .error e >>= f = .error e := rfl

theorem bind_ok {x : Except ε α} {f : α → Except ε β} :
    x >>= f = .ok b ↔ ∃ a, x = .ok a ∧ f a = .ok b := by
  cases x with
  | ok a =>
    constructor
    · exact fun h => ⟨a, rfl, h⟩
    · rintro ⟨_, ⟨⟩, h⟩
      exact h
  | error e =>
    constructor
    · nofun
    · rintro ⟨_, ⟨⟩, _⟩

theorem map_eq_ok_iff {x : Except ε α} {f : α → β} :
    x.map f = .ok b ↔ ∃ a, x = .ok a ∧ f a = b := by
  cases x with
  | ok a =>
    constructor
    · exact fun h => ⟨a, rfl, Except.ok.inj h⟩
    · rintro ⟨_, ⟨⟩, rfl⟩
      rfl
  | error e => exact ⟨nofun, nofun⟩

theorem map_eq_error_iff {x : Except ε α} {f : α → β} :
    x.map f = .error e ↔ x = .error e := by
  cases x with
  | ok => exact ⟨nofun, nofun⟩
  | error => rw [Except.map, Except.error.injEq, Except.error.injEq]

theorem toOption_eq_some {x : Except ε α} : x.toOption = some a ↔ x = .ok a := by
  cases x with
  | ok b => exact ⟨fun h => congrArg _ (Option.some.inj h), fun h => congrArg _ (Except.ok.inj h)⟩
  | error e => exact ⟨nofun, nofun⟩

-- These decide what a computation comes to where its result is too large to be written down: that
-- there is one, and that it has a property.
instance decidableOkAnd {x : Except ε α} {P : α → Prop} [∀ a, Decidable (P a)] :
    Decidable (∃ a, x = .ok a ∧ P a) :=
  match x with
  | .ok a => decidable_of_iff (P a) ⟨fun h => ⟨a, rfl, h⟩, fun ⟨_, ha, h⟩ => Except.ok.inj ha ▸ h⟩
  | .error _ => .isFalse nofun

instance decidableOk {x : Except ε α} : Decidable (∃ a, x = .ok a) :=
  match x with
  | .ok a => .isTrue ⟨a, rfl⟩
  | .error _ => .isFalse nofun

instance decidableSomeAnd {x : Option α} {P : α → Prop} [∀ a, Decidable (P a)] :
    Decidable (∃ a, x = some a ∧ P a) :=
  match x with
  | some a =>
    decidable_of_iff (P a) ⟨fun h => ⟨a, rfl, h⟩, fun ⟨_, ha, h⟩ => Option.some.inj ha ▸ h⟩
  | none => .isFalse nofun

instance decidableRunOkAnd {x : EStateM ε σ α} {s : σ} {P : α → σ → Prop}
    [∀ a s', Decidable (P a s')] :
    Decidable (∃ a s', x s = .ok a s' ∧ P a s') :=
  match x s with
  | .ok a s' => decidable_of_iff (P a s') ⟨fun h => ⟨a, s', rfl, h⟩, fun ⟨_, _, hresult, h⟩ => by
      obtain ⟨rfl, rfl⟩ := EStateM.Result.ok.inj hresult
      exact h⟩
  | .error .. => .isFalse nofun

instance decidableRunErrorAnd {x : EStateM ε σ α} {s : σ} {P : ε → σ → Prop}
    [∀ e s', Decidable (P e s')] :
    Decidable (∃ e s', x s = .error e s' ∧ P e s') :=
  match x s with
  | .error e s' => decidable_of_iff (P e s') ⟨fun h => ⟨e, s', rfl, h⟩, fun ⟨_, _, hresult, h⟩ => by
      obtain ⟨rfl, rfl⟩ := EStateM.Result.error.inj hresult
      exact h⟩
  | .ok .. => .isFalse nofun

theorem bind_run_ok {x : EStateM ε σ α} {f : α → EStateM ε σ β} :
    (x >>= f) s = .ok b s' ↔ ∃ a s₁, x s = .ok a s₁ ∧ f a s₁ = .ok b s' := by
  change EStateM.bind x f s = .ok b s' ↔ _
  unfold EStateM.bind
  cases x s with
  | ok a s₁ =>
    constructor
    · exact fun h => ⟨a, s₁, rfl, h⟩
    · rintro ⟨_, _, ⟨⟩, h⟩
      exact h
  | error e s₁ =>
    constructor
    · nofun
    · rintro ⟨_, _, ⟨⟩, _⟩

/-- A way to say that every result of a computation has a property, and that the computation
fails with allowed errors only. -/
structure Assertion (m : Type → Type) [Monad m] [MonadExceptOf (Halt TokenizeError) m] where
  allowed : Halt TokenizeError → Prop
  holds {α : Type} : m α → (α → Prop) → Prop
  pure {α : Type} {a : α} {P : α → Prop} : P a → holds (Pure.pure a) P
  bind {α β : Type} {x : m α} {f : α → m β} {P : α → Prop} {Q : β → Prop} :
    holds x P → (∀ a, P a → holds (f a) Q) → holds (x >>= f) Q
  throw {α : Type} {e : Halt TokenizeError} {P : α → Prop} : allowed e → holds (throw e : m α) P
  mono {α : Type} {x : m α} {P Q : α → Prop} : holds x P → (∀ a, P a → Q a) → holds x Q

namespace Assertion

variable {m : Type → Type} [Monad m] [MonadExceptOf (Halt TokenizeError) m]

/-- Patterns that are compiled on the way fail with allowed errors only. -/
def Compiles (A : Assertion m) (context : Context m ρ) : Prop :=
  ∀ source, A.holds (context.compile source) fun _ => True

/-- Of computations that either fail or succeed. -/
def except (allowed : Halt TokenizeError → Prop) : Assertion (Except (Halt TokenizeError)) where
  allowed
  holds x P := (∀ a, x = .ok a → P a) ∧ ∀ e, x = .error e → allowed e
  pure h := ⟨by rintro _ ⟨⟩; exact h, nofun⟩
  bind {_ _ x _ _ _} hx hf := by
    cases x with
    | ok a => exact hf a (hx.1 a rfl)
    | error e => exact ⟨nofun, by rintro _ ⟨⟩; exact hx.2 e rfl⟩
  throw h := ⟨nofun, by rintro _ ⟨⟩; exact h⟩
  mono hx h := ⟨fun a ha => h a (hx.1 a ha), hx.2⟩

theorem except_compiles (context : Context (Except (Halt TokenizeError)) ρ) :
    (except fun _ => True).Compiles context :=
  fun _ => ⟨fun _ _ => trivial, fun _ _ => trivial⟩

/-- Of computations with a state, from whatever state they start. -/
def withState (σ : Type) (allowed : Halt TokenizeError → Prop) :
    Assertion (EStateM (Halt TokenizeError) σ) where
  allowed
  holds x P := ∀ s, (∀ a s', x s = .ok a s' → P a) ∧ ∀ e s', x s = .error e s' → allowed e
  pure h := fun _ => ⟨by rintro _ _ ⟨⟩; exact h, nofun⟩
  bind {_ _ x f _ _} hx hf := by
    intro s
    have hs := hx s
    change (∀ b s', EStateM.bind x f s = .ok b s' → _) ∧
      ∀ e s', EStateM.bind x f s = .error e s' → allowed e
    unfold EStateM.bind
    cases hr : x s with
    | ok a s' => exact hf a (hs.1 a s' hr) s'
    | error e s' => exact ⟨nofun, by rintro _ _ ⟨⟩; exact hs.2 e s' hr⟩
  throw h := fun _ => ⟨nofun, by rintro _ _ ⟨⟩; exact h⟩
  mono hx h := fun s => ⟨fun a s' ha => h a ((hx s).1 a s' ha), (hx s).2⟩

end Assertion

end LineScopes
