import LineScopes.Unicode.CodeSet

/-!
# Patterns

The form of a regular expression once its source has been read. A text that
stands for itself in any case is kept folded.
-/

namespace LineScopes.Regex

open Unicode (CodeSet)

inductive Anchor
  | lineStart
  | lineEnd
  | textStart
  | textEnd
  /-- The end of the text, or before a line feed there. -/
  | lastLineEnd
  | searchStart
  | wordBoundary (isThere : Bool) (word : CodeSet)
  | clusterBoundary (isThere : Bool)
  deriving DecidableEq, Repr

inductive Greed
  | greedy
  | lazy
  deriving DecidableEq, Repr

/-- A group that is called by number or by name. -/
inductive Target
  | number (n : Nat)
  | name (s : String)
  deriving DecidableEq, Repr

inductive Pattern
  | empty
  | text (chars : List Char)
  | folded (chars : List Char)
  | set (codes : CodeSet)
  | seq (first second : Pattern)
  | alt (first second : Pattern)
  | capture (group : Nat) (isNamed : Bool) (body : Pattern)
  /-- A group that neither captures nor is transparent to repetition. -/
  | enclosed (body : Pattern)
  | repeated (low : Nat) (high : Option Nat) (greed : Greed) (body : Pattern)
  | atomic (body : Pattern)
  | ahead (isThere : Bool) (body : Pattern)
  | behind (isThere : Bool) (body : Pattern)
  /-- The text of one of the groups, the first one that is set and fits. -/
  | backReference (groups : List Nat) (byName : Bool) (ignoreCase : Bool)
  | anchor (a : Anchor)
  /-- The match begins only here. -/
  | keep
  | call (target : Target)
  | ifSet (groups : List Nat) (byName : Bool)
  | conditional (condition yes no : Pattern)
  /-- A body confined to the text before the next match of another pattern. -/
  | absent (barrier body : Pattern)
  /-- From here on the text ends before the next match of a pattern. -/
  | stopper (barrier : Pattern)
  | clearStopper
  deriving DecidableEq, Repr, Inhabited

namespace Pattern

def newline : CodeSet := .singleton 0x0A

/-- Any character but a line feed. -/
def dot : Pattern := .set newline.compl

def anything : Pattern := .set .all

/-- Sequences are kept right-nested, with neighbouring texts joined. -/
def append : Pattern → Pattern → Pattern
  | .empty, second => second
  | first, .empty => first
  | .seq first middle, second => append first (append middle second)
  | .text a, .text b => .text (a ++ b)
  | .text a, .seq (.text b) rest => .seq (.text (a ++ b)) rest
  | .folded a, .folded b => .folded (a ++ b)
  | .folded a, .seq (.folded b) rest => .seq (.folded (a ++ b)) rest
  | first, second => .seq first second

/-- Whether a repetition may not stand behind the pattern. -/
def unrepeatable : Pattern → Bool
  | .anchor _ | .ahead .. | .behind .. | .keep | .clearStopper => true
  | .alt first second => first.unrepeatable || second.unrepeatable
  | _ => false

/-- The least and the greatest number of characters that a match has. -/
def width : Pattern → Nat × Option Nat
  | .text chars => (chars.length, some chars.length)
  | .folded chars => ((chars.length + 2) / 3, some chars.length)
  | .set _ => (1, some 1)
  | .seq first second =>
    let (low, high) := first.width
    let (low', high') := second.width
    (low + low', high.bind fun a => high'.map (a + ·))
  | .alt first second =>
    let (low, high) := first.width
    let (low', high') := second.width
    (min low low', high.bind fun a => high'.map (max a))
  | .capture _ _ body | .enclosed body | .atomic body => body.width
  | .repeated low high _ body =>
    let (least, most) := body.width
    (low * least, if most = some 0 then some 0 else high.bind fun n => most.map (n * ·))
  | .conditional condition yes no =>
    let (low, high) := condition.width
    let (low', high') := yes.width
    let (low'', high'') := no.width
    (min (low + low') low'',
      high.bind fun a => high'.bind fun b => high''.map (max (a + b)))
  | .backReference .. | .call _ | .absent .. => (0, none)
  | .empty | .ahead .. | .behind .. | .anchor _ | .keep | .ifSet .. | .stopper _
  | .clearStopper => (0, some 0)

end Pattern

end LineScopes.Regex
