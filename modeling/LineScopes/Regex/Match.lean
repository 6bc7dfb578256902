import LineScopes.Engine
import LineScopes.Regex.Resolve
import LineScopes.Unicode.Cluster

/-!
# Matching by backtracking

A pattern is matched at a position with a continuation for what follows it;
where the continuation fails, the next way to match is tried. A search is given
up when matching at one position has failed too often. Positions count
characters; spans are given in bytes.
-/

namespace LineScopes.Regex

/-- The text and the search, which do not change while matching. -/
structure Subject where
  chars : Array Char
  /-- Where the search starts. -/
  start : Nat
  anchors : Anchors

structure State where
  pos : Nat
  /-- Where the text ends for the characters that may still be matched. -/
  limit : Nat
  starts : Array (Option Nat)
  stops : Array (Option Nat)
  /-- Where the match begins, if not where matching began. -/
  kept : Option Nat := none
  /-- How often matching may still fail. -/
  patience : Nat

/-- The end of an attempt: the state at the end of the match, or the patience that is left. -/
inductive Outcome
  | found (state : State)
  | failed (patience : Nat)

/-- What follows a pattern. -/
abbrev Continuation := State → Outcome

/-- The ways to match, in the order in which they are tried. -/
abbrev Matcher := Continuation → State → Outcome

def State.fail (state : State) : Outcome := .failed (state.patience - 1)

/-- Goes on in a state if an attempt has failed, unless no patience is left. -/
def Outcome.orFrom (outcome : Outcome) (state : State) (next : Continuation) : Outcome :=
  match outcome with
  | .failed (patience + 1) => next { state with patience := patience + 1 }
  | outcome => outcome

/-- Goes on after a match, or else fails. -/
def Outcome.andThen (outcome : Outcome) (next : Continuation) : Outcome :=
  match outcome with
  | .found after => next after
  | .failed patience => .failed patience

def Subject.char? (subject : Subject) (i : Nat) : Option Char := subject.chars[i]?

/-- The characters before a position, the nearest first. -/
def Subject.before (subject : Subject) (pos : Nat) : List Char :=
  (subject.chars.extract 0 pos).toList.reverse

def Subject.holds (subject : Subject) (pos : Nat) : Anchor → Bool
  | .lineStart =>
    pos = 0 || (subject.char? (pos - 1) = some '\n' && pos < subject.chars.size)
  | .lineEnd => pos = subject.chars.size || subject.char? pos = some '\n'
  | .textStart => pos = 0 && subject.anchors.atStart
  | .textEnd => pos = subject.chars.size
  | .lastLineEnd =>
    pos = subject.chars.size ||
      (subject.char? pos = some '\n' && pos + 1 = subject.chars.size)
  | .searchStart => pos = subject.start && subject.anchors.atPosition
  | .wordBoundary isThere word =>
    let isWord (i : Nat) : Bool := (subject.char? i).any word.contains
    isThere == ((0 < pos && isWord (pos - 1)) != isWord pos)
  | .clusterBoundary isThere =>
    isThere == match subject.char? pos with
      | some c => Unicode.isClusterBoundary (subject.before pos) c
      | none => true

/-- Matches the characters one by one. -/
def Subject.matchText (subject : Subject) (limit : Nat) : List Char → Nat → Option Nat
  | [], pos => some pos
  | c :: rest, pos =>
    if pos < limit ∧ subject.char? pos = some c then subject.matchText limit rest (pos + 1)
    else none

/-- Matches characters whose foldings make up the folded text. -/
def Subject.matchFolded (subject : Subject) (limit : Nat) (folded : List Char) (pos : Nat) :
    (fuel : Nat) → Option Nat
  | 0 => none
  | fuel + 1 =>
    if folded.isEmpty then some pos
    else if limit ≤ pos then none
    else
      let image := ((subject.char? pos).map Unicode.fold).getD []
      if !image.isEmpty && image.isPrefixOf folded then
        subject.matchFolded limit (folded.drop image.length) (pos + 1) fuel
      else none

/-- Matches the text of a span once more. -/
def Subject.matchSpan (subject : Subject) (limit from_ stop : Nat) (ignoreCase : Bool)
    (pos : Nat) : Option Nat :=
  let text := (subject.chars.extract from_ stop).toList
  if ignoreCase then
    let fits := text.zipIdx.all fun (c, i) =>
      (subject.char? (pos + i)).map Unicode.fold == some (Unicode.fold c)
    if fits && pos + text.length ≤ limit then some (pos + text.length) else none
  else subject.matchText limit text pos

def State.group? (state : State) (group : Nat) : Option (Nat × Nat) :=
  match state.starts[group]?.join, state.stops[group]?.join with
  | some start, some stop => some (start, stop)
  | _, _ => none

/-- Repeats greedily: first as often as needed, then while it helps. A repetition that
matches nothing is not repeated again. -/
def greedily (step : Matcher) (next : Continuation) :
    (fuel low : Nat) → (more : Option Nat) → State → Outcome
  | 0, _, _, state => state.fail
  | fuel + 1, low + 1, more, state =>
    step (fun after => greedily step next fuel low more after) state
  | _ + 1, 0, some 0, state => next state
  | fuel + 1, 0, more, state =>
    (step (fun after =>
      if after.pos = state.pos then next after
      else greedily step next fuel 0 (more.map (· - 1)) after) state).orFrom state next

/-- Repeats as often as needed, and then only where the rest fails otherwise. -/
def lazily (step : Matcher) (next : Continuation) :
    (fuel low : Nat) → (more : Option Nat) → State → Outcome
  | 0, _, _, state => state.fail
  | fuel + 1, low + 1, more, state =>
    step (fun after => lazily step next fuel low more after) state
  | _ + 1, 0, some 0, state => next state
  | fuel + 1, 0, more, state =>
    (next state).orFrom state (step fun after =>
      if after.pos = state.pos then next after
      else lazily step next fuel 0 (more.map (· - 1)) after)

/-- Ends the text at the first position from `pos` on at which the matcher succeeds. -/
def stopAtFrom (barrier : Matcher) (next : Continuation) (pos : Nat) :
    (fuel : Nat) → State → Outcome
  | 0, state => next state
  | fuel + 1, state =>
    if state.limit < pos then next state
    else
      match barrier .found { state with pos := pos } with
      | .found after => next { state with limit := pos, patience := after.patience }
      | failed => failed.orFrom state (stopAtFrom barrier next (pos + 1) fuel)

def stopAt (barrier : Matcher) : Matcher := fun next state =>
  stopAtFrom barrier next state.pos (state.limit + 1 - state.pos) state

/-- Looks for a match that ends where the state is, from near to far starts. -/
def behindFrom (body : Matcher) : (tries distance : Nat) → State → Outcome
  | 0, _, state => state.fail
  | tries + 1, distance, state =>
    if state.pos < distance then state.fail
    else
      let start := { state with pos := state.pos - distance, limit := state.pos }
      let arrive (after : State) : Outcome :=
        if after.pos = state.pos then .found after else after.fail
      match body arrive start with
      | .found after => .found { after with limit := state.limit }
      | failed => failed.orFrom state (behindFrom body tries (distance + 1))

/-- Matches nothing, where an attempt succeeds or where it fails. -/
def lookAround (isThere : Bool) (attempt : State → Outcome) : Matcher := fun next state =>
  match attempt state, isThere with
  | .found after, true => next { after with pos := state.pos, limit := state.limit }
  | .found after, false => after.fail
  | failed, false => failed.orFrom state next
  | failed, true => failed

/-- The first of the groups whose text can be matched again. -/
def matchAny (subject : Subject) (state : State) (ignoreCase : Bool) (groups : List Nat) :
    Option Nat :=
  groups.firstM fun group => match state.group? group with
    | some (start, stop) => subject.matchSpan state.limit start stop ignoreCase state.pos
    | none => none

/-- Goes on at a position, if there is one. -/
def State.moveTo (state : State) (pos : Option Nat) (next : Continuation) : Outcome :=
  match pos with
  | some pos => next { state with pos := pos }
  | none => state.fail

/-- Matches a pattern, given how to match the groups that it calls. -/
def Pattern.run (subject : Subject) (call : Nat → Matcher) : Pattern → Matcher
  | .empty => fun next state => next state
  | .text chars => fun next state =>
    state.moveTo (subject.matchText state.limit chars state.pos) next
  | .folded chars => fun next state =>
    state.moveTo (subject.matchFolded state.limit chars state.pos (chars.length + 1)) next
  | .set codes => fun next state =>
    if state.pos < state.limit ∧ (subject.char? state.pos).any codes.contains then
      next { state with pos := state.pos + 1 }
    else state.fail
  | .seq first second => fun next state =>
    first.run subject call (fun after => second.run subject call next after) state
  | .alt first second => fun next state =>
    (first.run subject call next state).orFrom state (second.run subject call next)
  | .capture group _ body => fun next state =>
    body.run subject call
      (fun after => next { after with stops := after.stops.setIfInBounds group (some after.pos) })
      { state with
        starts := state.starts.setIfInBounds group (some state.pos)
        stops := state.stops.setIfInBounds group none }
  | .enclosed body => fun next state => body.run subject call next state
  | .repeated low high greed body => fun next state =>
    let fuel := low + subject.chars.size + 2
    let more := high.map (· - low)
    match greed with
    | .greedy => greedily (body.run subject call) next fuel low more state
    | .lazy => lazily (body.run subject call) next fuel low more state
  | .atomic body => fun next state => (body.run subject call .found state).andThen next
  | .ahead isThere body => lookAround isThere (body.run subject call .found)
  | .behind isThere body =>
    let (least, most) := body.width
    lookAround isThere fun state =>
      behindFrom (body.run subject call) ((most.getD state.pos) + 1 - least) least state
  | .backReference groups _ ignoreCase => fun next state =>
    state.moveTo (matchAny subject state ignoreCase groups) next
  | .anchor a => fun next state => if subject.holds state.pos a then next state else state.fail
  | .keep => fun next state => next { state with kept := some state.pos }
  | .call (.number n) => fun next state => call n next state
  | .call (.name _) => fun _ state => state.fail
  | .ifSet groups _ => fun next state =>
    if groups.any fun group => (state.group? group).isSome then next state else state.fail
  | .conditional condition yes no => fun next state =>
    match condition.run subject call .found state with
    | .found after => yes.run subject call next after
    | failed => failed.orFrom state (no.run subject call next)
  | .absent barrier body => fun next state =>
    stopAt (barrier.run subject call)
      (body.run subject call fun after => next { after with limit := state.limit }) state
  | .stopper barrier => stopAt (barrier.run subject call)
  | .clearStopper => fun next state => next { state with limit := subject.chars.size }

/-- Matches a group by its number, calls nesting no deeper than given. -/
def Compiled.group (regex : Compiled) (subject : Subject) : (depth : Nat) → Nat → Matcher
  | 0, _ => fun _ state => state.fail
  | depth + 1, n =>
    match regex.bodies.lookup n with
    | some body =>
      let body := if n = 0 then body else .capture n true body
      body.run subject (regex.group subject depth)
    | none => fun _ state => state.fail

/-- How deep calls may nest. -/
def maxCalls : Nat := 20

/-- How often matching at one position may fail. -/
def maxFailures : Nat := 10000000

def Compiled.matchAt (regex : Compiled) (subject : Subject) (pos : Nat) : Outcome :=
  let unset := Array.replicate (regex.groups + 1) none
  regex.pattern.run subject (regex.group subject maxCalls) .found
    { pos := pos, limit := subject.chars.size, starts := unset, stops := unset
      patience := maxFailures + 1 }

/-- The first match from a position on; none either where there is no patience left. -/
def Compiled.searchFrom (regex : Compiled) (subject : Subject) (pos : Nat) :
    (tries : Nat) → Option (Nat × State)
  | 0 => none
  | tries + 1 =>
    match regex.matchAt subject pos with
    | .found state => some (state.kept.getD pos, state)
    | .failed 0 => none
    | .failed _ => regex.searchFrom subject (pos + 1) tries

/-! ## Byte offsets -/

/-- The offset of each character, and that of the end. -/
def offsets (chars : Array Char) : Array Nat :=
  chars.foldl (fun offsets c => offsets.push (offsets.back?.getD 0 + c.utf8Size)) #[0]

def Compiled.search (regex : Compiled) (text : String) (start : Nat) (anchors : Anchors) :
    Option Found := do
  let chars := text.toList.toArray
  let offsets := offsets chars
  let first ← offsets.findIdx? (· = start)
  let subject : Subject := { chars, start := first, anchors }
  let (begins, state) ← regex.searchFrom subject first (chars.size + 1 - first)
  let offset (i : Nat) : Nat := (offsets[i]?).getD 0
  let groups := (List.range' 1 regex.groups).map fun group =>
    (state.group? group).map fun (start, stop) => ⟨offset start, offset stop⟩
  return ⟨offset begins, offset state.pos, some ⟨offset begins, offset state.pos⟩ :: groups⟩

/-- The engine for this syntax of regular expressions. -/
def engine : Engine Compiled where
  compile source := (compile source).mapError fun error => "Oniguruma error: " ++ error.message
  search := Compiled.search

end LineScopes.Regex
