import LineScopes.Proofs.Computation
import Mathlib.Data.List.Forall2

/-!
# The first error

Steps that may fail are taken one after the other, up to the first one that
fails. Together they fail with its error, and they succeed if all of them do.
-/

namespace LineScopes

theorem mapError_ok {x : Except ε α} {f : ε → ε'} : x.mapError f = .ok a ↔ x = .ok a := by
  cases x with
  | ok b => exact ⟨fun h => congrArg _ (Except.ok.inj h), fun h => congrArg _ (Except.ok.inj h)⟩
  | error e => exact ⟨nofun, nofun⟩

theorem mapError_error {x : Except ε α} {f : ε → ε'} :
    x.mapError f = .error e ↔ ∃ cause, x = .error cause ∧ f cause = e := by
  cases x with
  | ok a => exact ⟨nofun, nofun⟩
  | error cause =>
    constructor
    · rintro ⟨⟩
      exact ⟨cause, rfl, rfl⟩
    · rintro ⟨_, ⟨⟩, rfl⟩
      rfl

theorem exists_ok_iff {x : Except ε α} : (∃ a, x = .ok a) ↔ ∀ e, x ≠ .error e := by
  cases x with
  | ok a => exact ⟨fun _ => nofun, fun _ => ⟨a, rfl⟩⟩
  | error e => exact ⟨nofun, fun h => absurd rfl (h e)⟩

/-- The function fails on one of these with the error, and on none of those before it. -/
def FirstError (f : α → Except ε β) (xs : List α) (e : ε) : Prop :=
  ∃ before x after, xs = before ++ x :: after ∧ (∀ y ∈ before, ∃ b, f y = .ok b) ∧
    f x = .error e

variable {f : α → Except ε β} {x : α} {xs : List α}

theorem not_firstError_nil : ¬ FirstError f [] e := by
  rintro ⟨before, x, after, hsplit, -⟩
  simp at hsplit

theorem firstError_cons_of_ok (h : f x = .ok b) :
    FirstError f (x :: xs) e ↔ FirstError f xs e := by
  constructor
  · rintro ⟨before, y, after, hsplit, hbefore, herror⟩
    cases before with
    | nil =>
      obtain ⟨rfl, rfl⟩ := List.cons.inj hsplit
      rw [h] at herror
      contradiction
    | cons first before =>
      obtain ⟨rfl, rfl⟩ := List.cons.inj hsplit
      exact ⟨before, y, after, rfl, (List.forall_mem_cons.mp hbefore).2, herror⟩
  · rintro ⟨before, y, after, rfl, hbefore, herror⟩
    exact ⟨x :: before, y, after, rfl, List.forall_mem_cons.mpr ⟨⟨b, h⟩, hbefore⟩, herror⟩

theorem firstError_cons_of_error (h : f x = .error cause) :
    FirstError f (x :: xs) e ↔ cause = e := by
  constructor
  · rintro ⟨before, y, after, hsplit, hbefore, herror⟩
    cases before with
    | nil =>
      obtain ⟨rfl, rfl⟩ := List.cons.inj hsplit
      exact Except.error.inj (h.symm.trans herror)
    | cons first before =>
      obtain ⟨rfl, rfl⟩ := List.cons.inj hsplit
      obtain ⟨b, hok⟩ := hbefore _ List.mem_cons_self
      rw [h] at hok
      contradiction
  · rintro rfl
    exact ⟨[], x, xs, rfl, nofun, h⟩

theorem FirstError.congr {g : α → Except ε γ}
    (h : ∀ x ∈ xs, ∀ e, f x = .error e ↔ g x = .error e) :
    FirstError f xs e ↔ FirstError g xs e := by
  induction xs with
  | nil => exact ⟨fun h => absurd h not_firstError_nil, fun h => absurd h not_firstError_nil⟩
  | cons x xs ih =>
    obtain ⟨hx, hxs⟩ := List.forall_mem_cons.mp h
    cases hf : f x with
    | ok b =>
      cases hg : g x with
      | ok c => rw [firstError_cons_of_ok hf, firstError_cons_of_ok hg, ih hxs]
      | error cause =>
        rw [(hx cause).mpr hg] at hf
        contradiction
    | error cause => rw [firstError_cons_of_error hf, firstError_cons_of_error ((hx cause).mp hf)]

theorem FirstError.mapError {g : ε → ε'} :
    FirstError (fun x => (f x).mapError g) xs e ↔ ∃ cause, FirstError f xs cause ∧ g cause = e := by
  unfold FirstError
  simp only [mapError_ok, mapError_error]
  constructor
  · rintro ⟨before, x, after, hsplit, hbefore, cause, herror, rfl⟩
    exact ⟨cause, ⟨before, x, after, hsplit, hbefore, herror⟩, rfl⟩
  · rintro ⟨cause, ⟨before, x, after, hsplit, hbefore, herror⟩, rfl⟩
    exact ⟨before, x, after, hsplit, hbefore, cause, herror, rfl⟩

theorem forM_eq_error_iff {f : α → Except ε PUnit} : xs.forM f = .error e ↔ FirstError f xs e := by
  induction xs with
  | nil => exact ⟨nofun, fun h => absurd h not_firstError_nil⟩
  | cons x xs ih =>
    change (f x >>= fun _ => xs.forM f) = _ ↔ _
    cases hx : f x with
    | ok u => rw [ok_bind, ih, firstError_cons_of_ok hx]
    | error cause => rw [error_bind, firstError_cons_of_error hx, Except.error.injEq]

theorem foldlM_eq_error_iff {g : σ → β → σ} {s : σ} :
    xs.foldlM (fun s x => do return g s (← f x)) s = .error e ↔ FirstError f xs e := by
  induction xs generalizing s with
  | nil => exact ⟨nofun, fun h => absurd h not_firstError_nil⟩
  | cons x xs ih =>
    rw [List.foldlM_cons]
    cases hx : f x with
    | ok b => rw [firstError_cons_of_ok hx, ← ih, ok_bind, pure_bind]
    | error cause =>
      rw [error_bind, error_bind, firstError_cons_of_error hx, Except.error.injEq]

theorem mapM_eq_error_iff : xs.mapM f = .error e ↔ FirstError f xs e := by
  induction xs with
  | nil => exact ⟨nofun, fun h => absurd h not_firstError_nil⟩
  | cons x xs ih =>
    rw [List.mapM_cons]
    cases hx : f x with
    | ok b =>
      rw [ok_bind, firstError_cons_of_ok hx, ← ih]
      cases xs.mapM f with
      | ok bs => exact ⟨nofun, nofun⟩
      | error cause => rw [error_bind]
    | error cause => rw [error_bind, firstError_cons_of_error hx, Except.error.injEq]

theorem mapM_eq_ok_iff : xs.mapM f = .ok ys ↔ List.Forall₂ (fun x y => f x = .ok y) xs ys := by
  induction xs generalizing ys with
  | nil =>
    rw [List.forall₂_nil_left_iff]
    exact ⟨fun h => (Except.ok.inj h).symm, fun h => h ▸ rfl⟩
  | cons x xs ih =>
    rw [List.mapM_cons, List.forall₂_cons_left_iff, bind_ok]
    constructor
    · rintro ⟨y, hy, h⟩
      obtain ⟨rest, hrest, ⟨⟩⟩ := bind_ok.mp h
      exact ⟨y, rest, hy, ih.mp hrest, rfl⟩
    · rintro ⟨y, rest, hy, hrest, rfl⟩
      exact ⟨y, hy, bind_ok.mpr ⟨rest, ih.mpr hrest, rfl⟩⟩

theorem exists_firstError_iff :
    (∃ e, FirstError f xs e) ↔ ∃ x ∈ xs, ∃ e, f x = .error e := by
  induction xs with
  | nil => simpa using fun e => not_firstError_nil
  | cons x xs ih =>
    rw [List.exists_mem_cons_iff, ← ih]
    cases hx : f x with
    | ok b => simp [firstError_cons_of_ok hx]
    | error cause => simp [firstError_cons_of_error hx]

theorem forall_not_firstError_iff :
    (∀ e, ¬ FirstError f xs e) ↔ ∀ x ∈ xs, ∃ b, f x = .ok b := by
  rw [← not_exists, exists_firstError_iff]
  push Not
  exact forall₂_congr fun _ _ => exists_ok_iff.symm

end LineScopes
