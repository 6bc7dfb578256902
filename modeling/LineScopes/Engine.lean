import LineScopes.Text.Bytes

/-!
# Regular expression engines

The tokenizer is written over any engine that compiles sources and searches
lines. Positions are byte offsets. The two anchors that depend on more than
the text, the start of the document and the position of the last match, are
switched on or off for each search.
-/

namespace LineScopes

open Text (Span)

structure Anchors where
  /-- The anchor for the start of the text may match. -/
  atStart : Bool
  /-- The anchor for the start of the search may match. -/
  atPosition : Bool
  deriving DecidableEq, Repr

/-- The spans of the capture groups of a match, by group number; the whole match is group
zero. Groups that took no part have none. -/
abbrev Groups := List (Option Span)

structure Found where
  start : Nat
  stop : Nat
  groups : Groups
  deriving DecidableEq, Repr

structure Engine (ρ : Type) where
  /-- A regular expression, or what is wrong with its source. -/
  compile : String → Except String ρ
  /-- The first match at or after a position. -/
  search : ρ → (text : String) → (start : Nat) → Anchors → Option Found

/-- The text of a capture group; nothing if it took no part or its span is not a slice. -/
def Groups.captured (groups : Groups) (text : String) (group : Nat) : String :=
  (((groups[group]?).join).bind (Text.slice? text)).getD ""

end LineScopes
