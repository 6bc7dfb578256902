import LineScopes.Decimal.Shortest
import LineScopes.Json.Reader

/-!
# JSON numbers

An integer of 64 bits keeps its value; any other number is a binary
floating-point number, computed from its leading digits and a power of ten.
-/

namespace LineScopes.Json

inductive Number
  | integer (n : Int)
  | real (x : Float)

/-- How a number is called where it does not belong. -/
def Number.describe : Number → String
  | .integer n => "integer `" ++ toString n ++ "`"
  | .real x => "floating point `" ++ Decimal.render x ++ "`"

namespace Reader

def maxWord : Nat := UInt64.size - 1

/-- `value · 10 ^ exponent` in steps that a floating-point number can take. -/
def scale (value : Float) (exponent : Int) : (fuel : Nat) → Reader Float
  | 0 => return 0.0
  | fuel + 1 =>
    if exponent.natAbs ≤ 308 then
      let power := Float.ofScientific 1 false exponent.natAbs
      if 0 ≤ exponent then
        let scaled := value * power
        if scaled.isInf then failHere .hugeNumber else return scaled
      else return value / power
    else if value == 0.0 then return value
    else if 0 ≤ exponent then failHere .hugeNumber
    else scale (value / 1e308) (exponent + 308) fuel

def real (negative : Bool) (digits : Nat) (exponent : Int) : Reader Number := do
  let value ← scale (Float.ofNat digits) exponent (exponent.natAbs + 1)
  return .real (if negative then -value else value)

def digit? : Reader (Option Nat) := do
  match ← peek with
  | some byte => return if isDigit byte then some (byte.toNat - 0x30) else none
  | none => return none

/-- Reads digits as long as the number stays within 64 bits; answers it, how many digits
were read, and whether more follow. -/
def digits (n count : Nat) : (fuel : Nat) → Reader (Nat × Nat × Bool)
  | 0 => return (n, count, false)
  | fuel + 1 => do
    match ← digit? with
    | none => return (n, count, false)
    | some d =>
      if maxWord < 10 * n + d then return (n, count, true)
      else
        skip
        digits (10 * n + d) (count + 1) fuel

/-- Passes digits and counts them. -/
def skipDigits : Reader Nat := do
  let start ← offset
  skipWhile isDigit
  return (← offset) - start

def maxExponent : Nat := 0x7FFFFFFF

def exponentDigits (e : Nat) : (fuel : Nat) → Reader (Option Nat)
  | 0 => return some e
  | fuel + 1 => do
    match ← digit? with
    | none => return some e
    | some d =>
      skip
      if maxExponent < 10 * e + d then return none else exponentDigits (10 * e + d) fuel

/-- The exponent of a number, from its letter on. -/
def exponentPart (negative : Bool) (n : Nat) (start : Int) : Reader Number := do
  skip
  let down ← match ← peek with
    | some 0x2B => do skip; pure false
    | some 0x2D => do skip; pure true
    | _ => pure false
  match ← next with
  | none => failHere .valueBreaksOff
  | some byte =>
    if ¬ isDigit byte then failHere .badNumber
    else match ← exponentDigits (byte.toNat - 0x30) (← remaining) with
      | some e => real negative n (if down then start - e else start + e)
      | none =>
        if n ≠ 0 ∧ ¬ down then failHere .hugeNumber
        else
          skipWhile isDigit
          return .real (if negative then -0.0 else 0.0)

def isExponentMark (byte : Option UInt8) : Bool := byte = some 0x65 ∨ byte = some 0x45

/-- The digits behind a point, from the point on. -/
def fractionPart (negative : Bool) (n : Nat) (start : Int) : Reader Number := do
  skip
  let (n, count, more) ← digits n 0 (← remaining)
  if more then skipWhile isDigit
  else if count = 0 then
    match ← peek with
    | some _ => failAhead .badNumber
    | none => failAhead .valueBreaksOff
  let exponent := start - count
  if isExponentMark (← peek) then exponentPart negative n exponent
  else real negative n exponent

/-- What follows the digits of an integer. -/
def afterDigits (negative : Bool) (n : Nat) (dropped : Nat) : Reader Number := do
  match ← peek with
  | some 0x2E => fractionPart negative n dropped
  | byte =>
    if isExponentMark byte then exponentPart negative n dropped
    else if 0 < dropped then real negative n dropped
    else if ¬ negative then return .integer n
    else if n = 0 ∨ 1 <<< 63 < n then return .real (-(Float.ofNat n))
    else return .integer (-(n : Int))

/-- A number, behind its minus sign if it has one. -/
def number (negative : Bool) : Reader Number := do
  match ← next with
  | none => failHere .valueBreaksOff
  | some 0x30 =>
    if (← digit?).isSome then failAhead .badNumber else afterDigits negative 0 0
  | some byte =>
    if ¬ isDigit byte then failHere .badNumber
    else
      let (n, _, more) ← digits (byte.toNat - 0x30) 0 (← remaining)
      if more then afterDigits negative n (← skipDigits) else afterDigits negative n 0

/-! ## Numbers that are only passed -/

def skipExponent : Reader Unit := do
  skip
  match ← peek with
  | some 0x2B | some 0x2D => skip
  | _ => pure ()
  match ← next with
  | some byte => if isDigit byte then skipWhile isDigit else failHere .badNumber
  | none => failHere .badNumber

def skipNumber : Reader Unit := do
  match ← next with
  | some 0x30 => if (← digit?).isSome then failAhead .badNumber
  | some byte => if isDigit byte then skipWhile isDigit else failHere .badNumber
  | none => failHere .badNumber
  if (← peek) = some 0x2E then
    skip
    if (← skipDigits) = 0 then failAhead .badNumber
  if isExponentMark (← peek) then skipExponent

end Reader

end LineScopes.Json
