/-!
# Errors and crashes

What does not come to a result has halted: with an error, which can be told, or
because the program has died, which then tells nothing more.
-/

namespace LineScopes

/-- What the program dies of. -/
inductive Crash
  /-- A table of capture groups up to this number. -/
  | hugeGroup (number : Nat)
  /-- Texts of captures within one another, more than the stack of the program holds. -/
  | endless
  /-- The text up to the end of a capture, which is cut within a character. -/
  | cutCharacter
  deriving DecidableEq, Repr

/-- Why something has no result. -/
inductive Halt (ε : Type)
  | error (cause : ε)
  | crash (cause : Crash)
  deriving DecidableEq, Repr

/-- What has an error becomes another error; the program dies as it does. -/
def Halt.map (f : ε → ε') : Halt ε → Halt ε'
  | error cause => error (f cause)
  | crash cause => crash cause

@[simp]
theorem Halt.map_eq_crash {f : ε → ε'} {halt : Halt ε} :
    halt.map f = .crash cause ↔ halt = .crash cause := by
  cases halt <;> simp [map]

end LineScopes
