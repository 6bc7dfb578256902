/-!
# Shortest decimals

The decimal with the fewest digits that a binary floating-point number is the
nearest one to, found in exact arithmetic on the numbers that round to it.
-/

namespace LineScopes

/-- A positive number `digits · 10 ^ exponent`, without trailing zeros in `digits`. -/
structure Decimal where
  digits : Nat
  exponent : Int
  deriving DecidableEq, Repr

namespace Decimal

/-- A positive rational number. -/
structure Ratio where
  num : Nat
  den : Nat

/-- `m · 2 ^ q`. -/
def Ratio.scaled (m : Nat) (q : Int) : Ratio :=
  if q < 0 then ⟨m, 1 <<< (-q).toNat⟩ else ⟨m <<< q.toNat, 1⟩

/-- The quotient of the number by `10 ^ e`. -/
def Ratio.shift (r : Ratio) (e : Int) : Ratio :=
  if e < 0 then ⟨r.num * Nat.pow 10 (-e).toNat, r.den⟩ else ⟨r.num, r.den * Nat.pow 10 e.toNat⟩

/-- A number with the ends of the interval that rounds to it. -/
structure Rounding where
  value : Ratio
  low : Ratio
  high : Ratio
  closed : Bool

/-- The largest `e ≤ start` with `10 ^ e ≤ r`, looking no further than `fuel` steps down. -/
def logTen (r : Ratio) (start : Int) : (fuel : Nat) → Int
  | 0 => start
  | fuel + 1 =>
    let s := r.shift start
    if s.den ≤ s.num then start else logTen r (start - 1) fuel

def Rounding.covers (r : Rounding) (e : Int) (d : Nat) : Bool :=
  let low := r.low.shift e
  let high := r.high.shift e
  if r.closed then low.num ≤ d * low.den ∧ d * high.den ≤ high.num
  else low.num < d * low.den ∧ d * high.den < high.num

/-- The neighbour of the number on the grid of multiples of `10 ^ e` that rounds to it;
the nearer of two, the even one of two as near. -/
def Rounding.onGrid (r : Rounding) (e : Int) : Option Nat :=
  let v := r.value.shift e
  let below := v.num / v.den
  let rest := 2 * (v.num % v.den)
  let up := rest > v.den ∨ (rest = v.den ∧ below % 2 = 1)
  match decide (0 < below) && r.covers e below, r.covers e (below + 1) with
  | true, true => some (if up then below + 1 else below)
  | true, false => some below
  | false, true => some (below + 1)
  | false, false => none

def stripZeros (digits : Nat) (exponent : Int) : (fuel : Nat) → Decimal
  | 0 => ⟨digits, exponent⟩
  | fuel + 1 =>
    if digits % 10 = 0 ∧ 0 < digits then stripZeros (digits / 10) (exponent + 1) fuel
    else ⟨digits, exponent⟩

/-- Tries one digit more on each step. -/
def Rounding.shortestFrom (r : Rounding) (e : Int) : (fuel : Nat) → Decimal
  | 0 => ⟨0, 0⟩
  | fuel + 1 =>
    match r.onGrid e with
    | some d => stripZeros d e 400
    | none => r.shortestFrom (e - 1) fuel

def Rounding.shortest (r : Rounding) : Decimal := r.shortestFrom (logTen r.value 309 700) 20

/-- The interval of a positive finite number given by its bits. -/
def Rounding.ofBits (bits : Nat) : Rounding :=
  let fraction := bits % (1 <<< 52)
  let field := (bits >>> 52) % (1 <<< 11)
  let m := if field = 0 then fraction else fraction + (1 <<< 52)
  let q : Int := Int.ofNat (if field = 0 then 1 else field) - 1075
  let low := if fraction = 0 ∧ 1 < field then Ratio.scaled (4 * m - 1) (q - 2)
    else Ratio.scaled (2 * m - 1) (q - 1)
  ⟨.scaled m q, low, .scaled (2 * m + 1) (q - 1), m % 2 = 0⟩

/-! ## Layout -/

/-- Positional from `10 ^ -4` up to below `10 ^ 16`, always with a point; else a signed
exponent of at least two digits. -/
def layout (d : Decimal) : String :=
  let digits := (Nat.repr d.digits).toList
  let top := d.exponent + digits.length - 1
  if -4 ≤ top ∧ top < 16 then
    String.ofList (
      if 0 ≤ d.exponent then digits ++ List.replicate d.exponent.toNat '0' ++ ['.', '0']
      else if 0 ≤ top then digits.take (top.toNat + 1) ++ '.' :: digits.drop (top.toNat + 1)
      else ['0', '.'] ++ List.replicate (-top - 1).toNat '0' ++ digits)
  else
    let exponent := Nat.repr top.natAbs
    let exponent := if exponent.length < 2 then "0" ++ exponent else exponent
    String.ofList (digits.take 1 ++ if digits.length > 1 then '.' :: digits.drop 1 else []) ++
      (if top < 0 then "e-" else "e+") ++ exponent

def render (x : Float) : String :=
  let bits := x.toBits.toNat
  let sign := if bits >>> 63 = 1 then "-" else ""
  let magnitude := bits % (1 <<< 63)
  sign ++ if magnitude = 0 then "0.0" else (Rounding.ofBits magnitude).shortest.layout

end Decimal

end LineScopes
