/-!
# Numbers in texts

Group numbers are written in decimal and count as numbers only below 2^64.
-/

namespace LineScopes.Text

/-- The number that decimal digits spell. -/
def decimal (digits : List Char) : Nat :=
  digits.foldl (fun n c => 10 * n + (c.toNat - '0'.toNat)) 0

/-- A number of 64 bits in decimal digits. -/
def digits? (digits : List Char) : Option Nat :=
  if digits.isEmpty ∨ ¬ digits.all Char.isDigit ∨ UInt64.size ≤ decimal digits then none
  else some (decimal digits)

/-- A number of 64 bits that may have a plus sign. -/
def number? : List Char → Option Nat
  | '+' :: digits => digits? digits
  | digits => digits? digits

end LineScopes.Text
