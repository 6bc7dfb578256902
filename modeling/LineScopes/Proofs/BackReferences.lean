import LineScopes.Grammar.BackReference

/-!
# Patterns without back-references

Once the captured text stands in place of the back-references of a pattern,
none is left, and the captured text brings no new one.
-/

namespace LineScopes.BackReference

theorem isDigit_of_isSpecial {c : Char} (h : isSpecial c) : c.isDigit = false := by
  unfold isSpecial at h
  rcases (Bool.or_eq_true _ _).mp h with hblank | hmem
  · have hcode : c.isDigit = decide (48 ≤ c.toNat ∧ c.toNat ≤ 57) := by
      simp only [Char.isDigit, Bool.decide_and]
      rfl
    rw [hcode, decide_eq_false_iff_not]
    have hblank := of_decide_eq_true hblank
    omega
  · have hnone : ("-\\\x7b\x7d*+?|^$.,[]()#".toList.all fun c => !c.isDigit) = true := by decide
    simpa using List.all_eq_true.mp hnone c (List.contains_iff_mem.mp hmem)

theorem occursIn_cons {c : Char} (h : c ≠ '\\') (rest : List Char) :
    occursIn (c :: rest) = occursIn rest := by
  cases rest <;> simp [occursIn, h]

/-- The literal pattern of a text ends with no backslash that could stand before a digit. -/
theorem occursIn_literal_append (text rest : List Char) :
    occursIn (literal text ++ rest) = occursIn rest := by
  induction text with
  | nil => rfl
  | cons c text ih =>
    rw [literal, List.flatMap_cons, ← literal, List.append_assoc]
    by_cases hspecial : isSpecial c
    · rw [if_pos hspecial, List.cons_append, List.cons_append, List.nil_append, occursIn,
        isDigit_of_isSpecial hspecial, Bool.false_or, ih]
    · have hne : c ≠ '\\' := by
        rintro rfl
        exact hspecial (by decide)
      rw [if_neg hspecial, List.singleton_append, occursIn_cons hne, ih]

theorem occursIn_resolveChars (groups : Groups) (text : String) (pattern : List Char) :
    occursIn (resolveChars groups text pattern) = false := by
  fun_induction resolveChars groups text pattern with
  | case1 c rest digits hdigits ih =>
    have hc : c.isDigit = false := by
      cases hc : c.isDigit with
      | false => rfl
      | true => simp [digits, hc] at hdigits
    rw [occursIn, hc, Bool.false_or, ih]
  | case2 => rfl
  | case3 rest digits hdigits ih => rw [occursIn_literal_append, ih]
  | case4 c rest hne ih =>
    rw [occursIn_cons hne, ih]
  | case5 => rfl

theorem not_isIn_resolve (pattern : String) (groups : Groups) (text : String) :
    ¬ isIn (resolve pattern groups text) := by
  simp [isIn, resolve, occursIn_resolveChars]

end LineScopes.BackReference
