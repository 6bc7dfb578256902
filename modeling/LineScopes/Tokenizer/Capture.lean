import LineScopes.Grammar.NameTemplate
import LineScopes.Tokenizer.Paint
import LineScopes.Tokenizer.Search

/-!
# Captures of a match

The text of a capture group has the scopes of its rule, on top of those of the
capture around it. Where the rule has patterns, the text is tokenized anew,
as if it ended with the capture.
-/

namespace LineScopes

/-- The end of a text, from a position on, and the stack that it is tokenized with. -/
structure Passage (ρ : Type) where
  stack : Stack ρ
  text : String
  start : Nat

/-- How passages are tokenized. -/
abbrev Rescan (m : Type → Type) (ρ : Type) := Passage ρ → m Paint

/-- A capture that has been entered and not been left: its scopes and its end. -/
abbrev OpenCapture := List String × Nat

/-- Leaves the captures that end by a position. -/
def Paint.leave (paint : Paint) (pos : Nat) : List OpenCapture → Paint × List OpenCapture
  | [] => (paint, [])
  | (scopes, stop) :: around =>
    if stop ≤ pos then (paint.upTo stop scopes).leave pos around
    else (paint, (scopes, stop) :: around)

def Paint.leaveAll (paint : Paint) (captures : List OpenCapture) : Paint :=
  captures.foldl (fun paint (scopes, stop) => paint.upTo stop scopes) paint

/-- A match that is painted with its captures. -/
structure Capturing (ρ : Type) where
  /-- The text of the match has the scopes of this stack. -/
  stack : Stack ρ
  /-- The grammar that the capture rules belong to. -/
  grammar : Grammar ρ
  captures : Captures
  text : String
  found : Found

namespace Capturing

/-- The scopes that the name of a capture rule adds. -/
def names (capturing : Capturing ρ) (id : RuleId) : List String :=
  NameTemplate.scopes (capturing.grammar.rule id).name capturing.found.groups capturing.text

/-- The text of a capture, to be tokenized with the patterns of its rule; none if the text is
cut within a character. -/
def passage? (capturing : Capturing ρ) (id : RuleId) (scopes : List String) (span : Text.Span) :
    Option (Passage ρ) :=
  (Text.slice? capturing.text ⟨0, span.stop⟩).map fun text => {
    stack := capturing.stack.push (.new ⟨capturing.grammar, id⟩ scopes (some span.start))
    text
    start := span.start }

variable {m : Type → Type} [Monad m] [MonadExceptOf (Halt TokenizeError) m]

def nested (capturing : Capturing ρ) (rescan : Rescan m ρ) (id : RuleId) (scopes : List String)
    (span : Text.Span) : m Paint :=
  match capturing.passage? id scopes span with
  | some passage => rescan passage
  | none => throw (.crash .cutCharacter : Halt TokenizeError)

/-- Paints captures in the order of their numbers; `around` are those that are still open, the
innermost first. -/
def paintFrom (capturing : Capturing ρ) (rescan : Rescan m ρ) :
    Captures → List OpenCapture → Paint → m Paint
  | [], around, paint => pure (paint.leaveAll around)
  | (group, id) :: rest, around, paint =>
    match (capturing.found.groups[group]?).join with
    | none => capturing.paintFrom rescan rest around paint
    | some span =>
      if span.start = span.stop then capturing.paintFrom rescan rest around paint
      else
        let (paint, around) := paint.leave span.start around
        let outer := (around.head?.map (·.1)).getD capturing.stack.scopes
        let paint := paint.upTo span.start outer
        let names := capturing.names id
        if ¬ (capturing.grammar.rule id).patterns.isEmpty then do
          let painted ← capturing.nested rescan id (outer ++ names) span
          capturing.paintFrom rescan rest around (paint.extend painted.strokes)
        else if names.isEmpty then capturing.paintFrom rescan rest around paint
        else capturing.paintFrom rescan rest ((outer ++ names, span.stop) :: around) paint

/-- Paints the text before the match, in the scopes given, and then the match. -/
def paint (capturing : Capturing ρ) (rescan : Rescan m ρ) (before : List String)
    (paint : Paint) : m Paint := do
  let paint := paint.upTo capturing.found.start before
  let paint ← capturing.paintFrom rescan capturing.captures [] paint
  return paint.upTo capturing.found.stop capturing.stack.scopes

end Capturing

end LineScopes
