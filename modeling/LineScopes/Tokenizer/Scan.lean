import LineScopes.Grammar.BackReference
import LineScopes.Tokenizer.Capture

/-!
# Scanning a line

From a position on, the next match is looked for until there is none. A match
enters a rule, leaves the topmost one, or does both at once. A match that
takes no text must not be found again and again: where a rule is left at the
position where it was entered, or entered twice at one position, the rest of
the line is given up.
-/

namespace LineScopes

structure Scan (ρ : Type) where
  stack : Stack ρ
  pos : Nat
  /-- Where the last begin or while match ended, which is where the anchor for that matches. -/
  anchor : Option Nat
  paint : Paint

inductive Step (ρ : Type)
  | next (scan : Scan ρ)
  | done (stack : Stack ρ) (paint : Paint)

/-- What a match does. -/
inductive Move (ρ : Type)
  /-- Leaves the topmost rule. -/
  | close
  /-- Enters a rule that a single match makes up, and leaves it. -/
  | pass (ref : RuleRef ρ) (captures : Captures)
  /-- Enters a rule that stays open. -/
  | enter (ref : RuleRef ρ) (captures : Captures) (ending : EndPattern ρ)

def Target.move? : Target ρ → Option (Move ρ)
  | .closing => some .close
  | .rule ref =>
    match ref.rule with
    | .matching _ _ captures => some (.pass ref captures)
    | .beginEnd _ _ _ ending captures ..
    | .beginWhile _ _ _ ending captures .. => some (.enter ref captures ending)
    | .group .. => none

def Passage.scan (passage : Passage ρ) : Scan ρ where
  stack := passage.stack
  pos := passage.start
  anchor := none
  paint := .startingAt passage.start

namespace Scan

/-- Paints the rest of the text and stops. -/
def finish (text : String) (stack : Stack ρ) (paint : Paint) : Step ρ :=
  .done stack (paint.upTo text.utf8ByteSize stack.scopes)

def anchors (scan : Scan ρ) : Anchors :=
  ⟨scan.stack.firstLine, scan.anchor = some scan.pos⟩

/-- The frame of a rule whose match takes no more than the text of the match. -/
def frame (scan : Scan ρ) (text : String) (found : Found) (ref : RuleRef ρ) : Frame ρ :=
  .new ref (scan.stack.scopes ++ NameTemplate.scopes ref.rule.name found.groups text)
    (some scan.pos)

/-- The frame of a rule that stays open, while its begin match is painted. -/
def opening (scan : Scan ρ) (text : String) (found : Found) (ref : RuleRef ρ) : Frame ρ :=
  { scan.frame text found ref with
    anchor := scan.anchor
    tookLineEnd := found.stop = text.utf8ByteSize }

/-- The frame of a rule that stays open, for the text after its begin match. -/
def opened (scan : Scan ρ) (text : String) (found : Found) (ref : RuleRef ρ)
    (ending : EndPattern ρ) : Frame ρ :=
  let frame := scan.opening text found ref
  { frame with
    contentScopes :=
      frame.nameScopes ++ NameTemplate.scopes ref.rule.contentName found.groups text
    ending := match ending with
      | .dynamic source => some (BackReference.resolve source found.groups text)
      | .static _ => none }

/-- The stack while a match is painted. -/
def stackWithin (scan : Scan ρ) (text : String) (found : Found) : Move ρ → Stack ρ
  | .close => scan.stack.mapTop fun frame => { frame with contentScopes := frame.nameScopes }
  | .pass ref _ => scan.stack.push (scan.frame text found ref)
  | .enter ref .. => scan.stack.push (scan.opening text found ref)

def capturing (scan : Scan ρ) (text : String) (found : Found) (move : Move ρ) : Capturing ρ where
  stack := scan.stackWithin text found move
  grammar := match move with
    | .close => scan.stack.top.owner.grammar
    | .pass ref _ | .enter ref .. => ref.grammar
  captures := match move with
    | .close => scan.stack.top.rule.closingCaptures
    | .pass _ captures | .enter _ captures _ => captures
  text
  found

/-- Whether a match that takes no text would be found again. -/
def isStuck (scan : Scan ρ) (found : Found) (move : Move ρ) : Bool :=
  found.stop ≤ scan.pos &&
    match move with
    | .close => scan.stack.frames.head?.any (·.entered = some scan.pos)
    | .pass .. => true
    | .enter ref .. => scan.stack.hasEntered ref scan.pos

/-- The stack if the rest of the text is given up. -/
def stackStuck (scan : Scan ρ) (text : String) (found : Found) : Move ρ → Stack ρ
  | .close => scan.stackWithin text found .close
  | .pass .. | .enter .. => scan.stack

def stackAfter (scan : Scan ρ) (text : String) (found : Found) : Move ρ → Stack ρ
  | .close => (scan.stackWithin text found .close).pop
  | .pass .. => scan.stack
  | .enter ref _ ending => scan.stack.push (scan.opened text found ref ending)

def anchorAfter (scan : Scan ρ) (found : Found) : Move ρ → Option Nat
  | .close =>
    match scan.stack.frames with
    | frame :: _ => frame.anchor
    | [] => scan.anchor
  | .pass .. => scan.anchor
  | .enter .. => some found.stop

/-- Goes on after a match that has been painted. -/
def after (scan : Scan ρ) (text : String) (found : Found) (move : Move ρ) (paint : Paint) :
    Step ρ :=
  if scan.isStuck found move then finish text (scan.stackStuck text found move) paint
  else .next {
    stack := scan.stackAfter text found move
    pos := max scan.pos found.stop
    anchor := scan.anchorAfter found move
    paint }

variable {m : Type → Type} [Monad m] [MonadExceptOf (Halt TokenizeError) m]

def step (context : Context m ρ) (rescan : Rescan m ρ) (text : String) (scan : Scan ρ) :
    m (Step ρ) := do
  match ← context.findMatch scan.stack.top text scan.pos scan.anchors with
  | none => return finish text scan.stack scan.paint
  | some (target, found) =>
    match target.move? with
    | some move => do
      let paint ← (scan.capturing text found move).paint rescan scan.stack.scopes scan.paint
      return scan.after text found move paint
    | none =>
      return .next { scan with
        pos := max scan.pos found.stop, paint := scan.paint.upTo found.start scan.stack.scopes }

/-- Scans to the end of the text, in no more steps than given. -/
def run (context : Context m ρ) (rescan : Rescan m ρ) (text : String) :
    (steps : Nat) → Scan ρ → m (Stack ρ × Paint)
  | 0, _ => throw (.crash .endless : Halt TokenizeError)
  | steps + 1, scan => do
    match ← step context rescan text scan with
    | .next scan => run context rescan text steps scan
    | .done stack paint => return (stack, paint)

/-- At one position no more rules are left than are open, and no rule is entered twice; each
step that does neither goes on to a later position. -/
def steps (context : Context m ρ) (text : String) (stack : Stack ρ) : Nat :=
  stack.depth + (2 * context.ruleCount + 5) * (text.utf8ByteSize + 2)

def toEnd (context : Context m ρ) (rescan : Rescan m ρ) (text : String) (scan : Scan ρ) :
    m (Stack ρ × Paint) :=
  run context rescan text (steps context text scan.stack) scan

end Scan

namespace Passage

variable {m : Type → Type} [Monad m] [MonadExceptOf (Halt TokenizeError) m]

/-- Tokenizes a passage, and the captures within it as given. -/
def tokenize (context : Context m ρ) (rescan : Rescan m ρ) (passage : Passage ρ) : m Paint := do
  let (_, paint) ← passage.scan.toEnd context rescan passage.text
  return paint

/-- Tokenizes passages, within one another no deeper than given. -/
def tokenizeWithin (context : Context m ρ) : (nesting : Nat) → Rescan m ρ
  | 0 => fun _ => throw (.crash .endless : Halt TokenizeError)
  | nesting + 1 => tokenize context (tokenizeWithin context nesting)

end Passage

end LineScopes
