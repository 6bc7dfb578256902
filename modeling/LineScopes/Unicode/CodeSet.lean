/-!
# Sets of code points

A set is an array of inclusive ranges, sorted and disjoint with a gap between
neighbours, so that equal sets have equal ranges. Tables of the Unicode
standard are written as text: hexadecimal code points and ranges `lo-hi`,
separated by blanks.
-/

namespace LineScopes.Unicode

/-- The largest code point. -/
def maxCode : Nat := 0x10FFFF

structure CodeSet where
  ranges : Array (Nat × Nat)
  deriving Inhabited, BEq, DecidableEq, Repr

namespace CodeSet

def empty : CodeSet := ⟨#[]⟩

def all : CodeSet := ⟨#[(0, maxCode)]⟩

/-- Adds a range that starts no earlier than any range added before. -/
def append (set : Array (Nat × Nat)) (range : Nat × Nat) : Array (Nat × Nat) :=
  match set.back? with
  | some (lo, hi) =>
    if range.1 ≤ hi + 1 then set.pop.push (lo, max hi range.2) else set.push range
  | none => set.push range

def ofRanges (ranges : List (Nat × Nat)) : CodeSet :=
  let sorted := (ranges.filter fun (lo, hi) => lo ≤ hi).mergeSort fun a b => a.1 ≤ b.1
  ⟨sorted.foldl append #[]⟩

def singleton (code : Nat) : CodeSet := ⟨#[(code, code)]⟩

def search (ranges : Array (Nat × Nat)) (code lo hi : Nat) : Bool :=
  if _h : lo < hi then
    let mid := (lo + hi) / 2
    match ranges[mid]? with
    | none => false
    | some (first, last) =>
      if code < first then search ranges code lo mid
      else if last < code then search ranges code (mid + 1) hi
      else true
  else false
termination_by hi - lo

def containsCode (set : CodeSet) (code : Nat) : Bool :=
  search set.ranges code 0 set.ranges.size

def contains (set : CodeSet) (c : Char) : Bool := set.containsCode c.toNat

def isEmpty (set : CodeSet) : Bool := set.ranges.isEmpty

def union (a b : CodeSet) : CodeSet := ofRanges (a.ranges.toList ++ b.ranges.toList)

def unions (sets : List CodeSet) : CodeSet :=
  ofRanges (sets.flatMap fun set => set.ranges.toList)

/-- The gaps between the ranges, from `next` on. -/
def gaps (next : Nat) : List (Nat × Nat) → List (Nat × Nat)
  | [] => [(next, maxCode)]
  | (lo, hi) :: rest => (next, lo - 1) :: gaps (hi + 1) rest

def compl (set : CodeSet) : CodeSet :=
  match set.ranges.toList with
  | (0, hi) :: rest => ofRanges (gaps (hi + 1) rest)
  | ranges => ofRanges (gaps 0 ranges)

def inter (a b : CodeSet) : CodeSet := (a.compl.union b.compl).compl

def diff (a b : CodeSet) : CodeSet := a.inter b.compl

/-- Every code point of the set, in order. -/
def codes (set : CodeSet) : List Nat :=
  set.ranges.toList.flatMap fun (lo, hi) => List.range' lo (hi + 1 - lo)

end CodeSet

/-! ## Tables as text -/

def hexDigit? (c : Char) : Option Nat :=
  if '0' ≤ c ∧ c ≤ '9' then some (c.toNat - 48)
  else if 'A' ≤ c ∧ c ≤ 'F' then some (c.toNat - 55)
  else if 'a' ≤ c ∧ c ≤ 'f' then some (c.toNat - 87)
  else none

/-- The number that the hexadecimal digits spell; other characters are skipped. -/
def hexNumber (digits : List Char) : Nat :=
  digits.foldl (fun n c => match hexDigit? c with
    | some d => 16 * n + d
    | none => n) 0

/-- Cuts at each blank or line end, dropping empty pieces. -/
def pieces (text : String) : List (List Char) :=
  let (done, last) := text.toList.foldl (fun (done, word) c =>
    if c = ' ' ∨ c = '\n' then (if word.isEmpty then (done, []) else (word.reverse :: done, []))
    else (done, c :: word)) (([] : List (List Char)), ([] : List Char))
  (if last.isEmpty then done else last.reverse :: done).reverse

def range (piece : List Char) : Nat × Nat :=
  match piece.span (· ≠ '-') with
  | (lo, _ :: hi) => (hexNumber lo, hexNumber hi)
  | (lo, []) => (hexNumber lo, hexNumber lo)

def CodeSet.ofTable (text : String) : CodeSet := CodeSet.ofRanges ((pieces text).map range)

end LineScopes.Unicode
