import LineScopes.Token

/-!
# Painting a line

The scopes of a line are painted from left to right. Each stroke gives the
text between the end of the last one and a later position its scopes, the
outermost first.
-/

namespace LineScopes

structure Stroke where
  start : Nat
  stop : Nat
  scopes : List String
  deriving DecidableEq, Repr

/-- The token of a stroke within the first `length` bytes. -/
def Stroke.token (length : Nat) (stroke : Stroke) : Token :=
  ⟨stroke.start, min stroke.stop length - stroke.start, stroke.scopes.reverse⟩

structure Paint where
  strokes : List Stroke
  /-- Everything before this position has been painted. -/
  stop : Nat
  deriving DecidableEq, Repr

namespace Paint

def startingAt (start : Nat) : Paint := ⟨[], start⟩

/-- Paints up to a position; what is painted already stays as it is. -/
def upTo (paint : Paint) (stop : Nat) (scopes : List String) : Paint :=
  if stop ≤ paint.stop then paint
  else ⟨paint.strokes ++ [⟨paint.stop, stop, scopes⟩], stop⟩

/-- Paints up to the ends of strokes, in their scopes. -/
def extend (paint : Paint) (strokes : List Stroke) : Paint :=
  strokes.foldl (fun paint stroke => paint.upTo stroke.stop stroke.scopes) paint

/-- The strokes within the first `length` bytes; an empty line has one empty token with the
scopes that text after it has. -/
def tokens (paint : Paint) (length : Nat) (trailing : List String) : List Token :=
  match paint.strokes.filter (·.start < length) with
  | [] => [⟨0, 0, trailing.reverse⟩]
  | strokes => strokes.map (Stroke.token length)

end Paint

end LineScopes
