import LineScopes.Tokenizer.Scan

/-!
# Rules that need a match on every line

At the start of a line the while patterns of the open rules are looked for,
from the root upwards, each where the one before ended. The first rule whose
pattern is not there is closed, and with it all rules above it.
-/

namespace LineScopes

namespace Scan

variable {m : Type → Type} [Monad m] [MonadExceptOf (Halt TokenizeError) m]

/-- The while match of a frame, if there is one where the scan is. -/
def findCondition (context : Context m ρ) (text : String) (frame : Frame ρ)
    (condition : EndPattern ρ) (scan : Scan ρ) : m (Option Found) := do
  let regex ← context.endRegex frame condition
  return (context.search regex text scan.pos scan.anchors).filter (·.start = scan.pos)

/-- The while match of a frame, with the frames below it. -/
def conditionCapturing (scan : Scan ρ) (text : String) (below : List (Frame ρ)) (frame : Frame ρ)
    (found : Found) : Capturing ρ where
  stack := { scan.stack with frames := frame :: below }
  grammar := frame.owner.grammar
  captures := frame.rule.conditionCaptures
  text
  found

/-- Goes on after a while match that has been painted. -/
def afterCondition (scan : Scan ρ) (found : Found) (paint : Paint) : Scan ρ :=
  if found.stop ≤ scan.pos then { scan with paint }
  else { scan with pos := found.stop, anchor := some found.stop, paint }

/-- Looks at the frames above `below`, the lowest first. The scan is at the end of the last
while match; its stack is the whole stack. -/
def continueFrames (context : Context m ρ) (rescan : Rescan m ρ) (text : String) :
    (below above : List (Frame ρ)) → Scan ρ → m (Scan ρ)
  | _, [], scan => pure scan
  | below, frame :: above, scan =>
    match frame.rule.condition? with
    | none => continueFrames context rescan text (frame :: below) above scan
    | some condition => do
      match ← findCondition context text frame condition scan with
      | none => return { scan with stack := { scan.stack with frames := below } }
      | some found =>
        let paint ← (scan.conditionCapturing text below frame found).paint rescan
          frame.contentScopes scan.paint
        continueFrames context rescan text (frame :: below) above (scan.afterCondition found paint)

/-- The scan at the start of a line. -/
def start (stack : Stack ρ) : Scan ρ where
  stack
  pos := 0
  anchor := if stack.top.tookLineEnd then some 0 else none
  paint := .startingAt 0

/-- Where scanning starts once the while patterns have been looked at. -/
def continued (context : Context m ρ) (rescan : Rescan m ρ) (text : String) (stack : Stack ρ) :
    m (Scan ρ) :=
  continueFrames context rescan text [] stack.frames.reverse (start stack)

end Scan

end LineScopes
