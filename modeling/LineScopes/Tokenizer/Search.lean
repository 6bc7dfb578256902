import LineScopes.Engine
import LineScopes.Tokenizer.Error
import LineScopes.Tokenizer.Library

/-!
# The next match

The candidates of the topmost rule and the pattern that ends it compete for
the earliest match. At one position the first candidate wins, and the end
wins over all candidates unless the rule wants it the other way round.
-/

namespace LineScopes

/-- What the tokenizer works with. Patterns that are rebuilt from captured text are compiled in
a monad, so that compiling them may be remembered. -/
structure Context (m : Type → Type) (ρ : Type) extends Library ρ where
  search : ρ → (text : String) → (start : Nat) → Anchors → Option Found
  compile : String → m ρ

inductive Target (ρ : Type)
  | rule (ref : RuleRef ρ)
  | closing
  deriving DecidableEq

namespace Context

variable {m : Type → Type} [Monad m] (context : Context m ρ)

/-- The earliest match of the candidates, if it comes before the best one so far. -/
def earliest (text : String) (pos : Nat) (anchors : Anchors) :
    List (RuleRef ρ) → Option (RuleRef ρ × Found) → Option (RuleRef ρ × Found)
  | [], best => best
  | ref :: rest, best =>
    match ref.rule.regex?.bind fun regex => context.search regex text pos anchors with
    | none => earliest text pos anchors rest best
    | some found =>
      if best.all (found.start < ·.2.start) then
        if found.start = pos then some (ref, found)
        else earliest text pos anchors rest (some (ref, found))
      else earliest text pos anchors rest best

/-- The regular expression that ends or continues the rule of a frame. -/
def endRegex (frame : Frame ρ) (pattern : EndPattern ρ) : m ρ :=
  match frame.ending, pattern with
  | some source, _ => context.compile source
  | none, .static regex => pure regex
  | none, .dynamic source => context.compile source

def matchClosing (frame : Frame ρ) (text : String) (pos : Nat) (anchors : Anchors) :
    m (Option Found) :=
  match frame.rule.closing? with
  | none => pure none
  | some pattern => do
    let regex ← context.endRegex frame pattern
    return context.search regex text pos anchors

/-- The better of the best candidate and the end. -/
def choose (closingLast : Bool) :
    Option (RuleRef ρ × Found) → Option Found → Option (Target ρ × Found)
  | none, none => none
  | some (ref, found), none => some (.rule ref, found)
  | none, some closing => some (.closing, closing)
  | some (ref, found), some closing =>
    if found.start < closing.start ∨ (found.start = closing.start ∧ closingLast) then
      some (.rule ref, found)
    else some (.closing, closing)

def findMatch (frame : Frame ρ) (text : String) (pos : Nat) (anchors : Anchors) :
    m (Option (Target ρ × Found)) := do
  let best := context.earliest text pos anchors (context.candidates frame.owner) none
  let closing ← context.matchClosing frame text pos anchors
  return choose frame.rule.closingLast best closing

end Context

end LineScopes
