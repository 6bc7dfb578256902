import LineScopes.Regex.CharClass
import LineScopes.Regex.Pattern

/-!
# Patterns from their source

Alternatives, sequences, repetitions and groups. An option that is set for no
group holds up to the end of the group around it, alternatives included.
-/

namespace LineScopes.Regex

open Unicode (CodeSet)

/-- How often a pattern is repeated. -/
structure Repeat where
  low : Nat
  high : Option Nat
  greed : Greed := .greedy
  possessive : Bool := false

/-- A part of a sequence, or all of the rest of the group. -/
inductive Piece
  | one (pattern : Pattern)
  | tail (pattern : Pattern)

def Pattern.literal (options : Options) (c : Char) : Pattern :=
  if options.ignoreCase then .folded (Unicode.fold c) else .text [c]

def Pattern.oneOf : List Pattern → Pattern
  | [] => .empty
  | [pattern] => pattern
  | pattern :: rest => .alt pattern (oneOf rest)

/-- A class, together with the texts that fold like one of its characters if case is ignored. -/
def Pattern.charClass (options : Options) (codes : CodeSet) (isThere : Bool) : Pattern :=
  match isThere, codes.ranges.toList with
  | true, [(lo, hi)] => if lo = hi then literal options (Char.ofNat lo) else closed
  | _, _ => closed
where
  closed : Pattern :=
    if options.ignoreCase then
      if isThere then
        oneOf (.set codes.closeCase :: (Unicode.expandingFoldings.filter fun (_, c) =>
          codes.contains c).map fun (chars, _) => .folded chars)
      else .set codes.closeCase.compl
    else .set (if isThere then codes else codes.compl)

/-- Any line break; the two characters of one are not taken apart. -/
def Pattern.lineBreak : Pattern :=
  .atomic (.alt (.text ['\r', '\n']) (.set (.ofTable "A-D 85 2028-2029")))

/-- A character with all that belongs to its cluster. -/
def Pattern.cluster : Pattern :=
  .atomic (.seq anything (.repeated 0 none .greedy
    (.seq (.anchor (.clusterBoundary false)) anything)))

def Repeat.apply (times : Repeat) (pattern : Pattern) : Except Error Pattern :=
  if pattern.unrepeatable then .error .notRepeatable
  else if times.low = 1 ∧ times.high = some 1 then .ok pattern
  else
    let repeated := .repeated times.low times.high times.greed pattern
    .ok (if times.possessive then .atomic repeated else repeated)

namespace Parser

/-! ## What is skipped -/

/-- The rest behind a comment in parentheses. -/
def commentEnd : List Char → Option (List Char)
  | '\\' :: _ :: rest => commentEnd rest
  | ')' :: rest => some rest
  | _ :: rest => commentEnd rest
  | [] => none

def isLayout (c : Char) : Bool := [' ', '\t', '\n', '\r', '\x0c'].contains c

/-- Passes comments and, in the extended form, blanks. -/
def skipIgnored (options : Options) : (fuel : Nat) → Parser Unit
  | 0 => return
  | fuel + 1 => do
    match ← rest with
    | '(' :: '?' :: '#' :: comment =>
      match commentEnd comment with
      | some rest => do
        setRest rest
        skipIgnored options fuel
      | none => throw .groupBreaksOff
    | c :: rest =>
      if options.extended ∧ isLayout c then
        setRest rest
        skipIgnored options fuel
      else if options.extended ∧ c = '#' then
        setRest ((rest.dropWhile (· ≠ '\n')).drop 1)
        skipIgnored options fuel
    | [] => return

def skipAll (options : Options) : Parser Unit := do skipIgnored options ((← rest).length + 1)

/-! ## Repetitions -/

def maxRepeat : Nat := 100000

def repeatBound : Parser (Option Nat) := do
  let n ← number .hugeRepeat
  if maxRepeat < n.getD 0 then throw .hugeRepeat
  return n

/-- The bounds between braces, the opening one read; nothing if they are not well formed.
Bounds in the wrong order are swapped and make the repetition possessive. -/
def interval : Parser (Option (Repeat × Bool)) := do
  let low ← repeatBound
  let (high, isFixed, isValid) ← do
    if ← skipIf ',' then
      let high ← repeatBound
      pure (high, false, low.isSome || high.isSome)
    else pure (low, true, low.isSome)
  if ¬ isValid ∨ ¬ (← skipIf '}') then return none
  let least := low.getD 0
  match high with
  | some most =>
    if most < least then
      return some ({ low := most, high := some least, possessive := true }, false)
    return some ({ low := least, high := some most }, isFixed)
  | none => return some ({ low := least, high := none }, false)

def simpleRepeat (low : Nat) (high : Option Nat) : Parser Repeat := do
  if ← skipIf '?' then return { low, high, greed := .lazy }
  if ← skipIf '+' then return { low, high, possessive := true }
  return { low, high }

/-- A repetition sign, if one is next. -/
def repetition : Parser (Option Repeat) := do
  match ← rest with
  | '*' :: rest => do setRest rest; some <$> simpleRepeat 0 none
  | '+' :: rest => do setRest rest; some <$> simpleRepeat 1 none
  | '?' :: rest => do setRest rest; some <$> simpleRepeat 0 (some 1)
  | '{' :: rest =>
    let start := '{' :: rest
    setRest rest
    match ← interval with
    | none =>
      setRest start
      return none
    | some (times, isFixed) =>
      if ¬ isFixed ∧ (← skipIf '?') then
        return some { times with greed := .lazy, possessive := false }
      return some times
  | _ => return none

def repetitions (options : Options) (pattern : Pattern) : (fuel : Nat) → Parser Pattern
  | 0 => return pattern
  | fuel + 1 => do
    skipAll options
    match ← repetition with
    | none => return pattern
    | some times => repetitions options (← times.apply pattern) fuel

/-! ## Escapes -/

/-- A byte by number, if one is next. -/
def byteEscape (options : Options) : Parser (Option Nat) := do
  skipAll options
  match ← rest with
  | '\\' :: 'x' :: rest =>
    if rest.head? = some '{' ∨ rest.isEmpty then return none
    setRest rest
    return some (Unicode.hexNumber (← takeUpTo 2 isHex))
  | '\\' :: c :: rest =>
    if isOctal c then
      setRest (c :: rest)
      return some (octal (← takeUpTo 3 isOctal) % 256)
    return none
  | _ => return none

/-- A character by its bytes, of which `count` are still to come. -/
def bytes (options : Options) (read : List Nat) : (count : Nat) → Parser Pattern
  | 0 =>
    match decode read with
    | some c => return .literal options c
    | none => throw .badBytes
  | count + 1 => do
    match ← byteEscape options with
    | some n => bytes options (read ++ [n]) count
    | none => throw .shortBytes

def byte (options : Options) (n : Nat) : Parser Pattern := bytes options [n] (encodedLength n - 1)

/-- The largest group number that a back-reference may have. -/
def maxReference : Nat := 1000

/-- A number behind a backslash: a back-reference, or else a byte in octal. -/
def numbered (options : Options) (first : Char) : Parser Pattern := do
  let after ← rest
  let digits := first :: (← takeUpTo after.length Char.isDigit)
  let n := decimal digits
  if n ≤ maxReference ∧ (n ≤ (← get).groups ∨ n ≤ 9) then
    return .backReference [n] false options.ignoreCase
  else if isOctal first then
    setRest after
    byte options (octal (first :: (← takeUpTo 2 isOctal)) % 256)
  else
    setRest after
    return .literal options first

def bracketEnd (c : Char) : Char := if c = '<' then '>' else c

def backReference (options : Options) (close : Char) : Parser Pattern := do
  match ← reference close with
  | .name name =>
    match ← groupsOf name with
    | [] => throw (.unknownName name)
    | groups => return .backReference groups true options.ignoreCase
  | number =>
    match absolute (← get).groups number with
    | some (n + 1) => return .backReference [n + 1] false options.ignoreCase
    | _ => throw .badBackReference

def call (close : Char) : Parser Pattern := do
  match ← reference close with
  | .name name => return .call (.name name)
  | number =>
    match absolute (← get).groups number with
    | some n => return .call (.number n)
    | none => throw .badBackReference

def escapeAtom (options : Options) : Parser Pattern := do
  match ← next with
  | none => throw .escapeBreaksOff
  | some c =>
    match c with
    | 'b' => return .anchor (.wordBoundary true options.word)
    | 'B' => return .anchor (.wordBoundary false options.word)
    | 'y' => return .anchor (.clusterBoundary true)
    | 'Y' => return .anchor (.clusterBoundary false)
    | 'A' => return .anchor .textStart
    | 'Z' => return .anchor .lastLineEnd
    | 'z' => return .anchor .textEnd
    | 'G' => return .anchor .searchStart
    | 'K' => return .keep
    | 'R' => return .lineBreak
    | 'N' => return .dot
    | 'O' => return .anything
    | 'X' => return .cluster
    | 'k' =>
      match ← peek with
      | some open_ =>
        if open_ = '<' ∨ open_ = '\'' then
          skip
          backReference options (bracketEnd open_)
        else return .literal options c
      | none => return .literal options c
    | 'g' =>
      match ← peek with
      | some open_ =>
        if open_ = '<' ∨ open_ = '\'' then
          skip
          call (bracketEnd open_)
        else return .literal options c
      | none => return .literal options c
    | '0' => byte options (octal ('0' :: (← takeUpTo 2 isOctal)))
    | c =>
      if c.isDigit then numbered options c
      else match ← escape options c with
        | .char c => return .literal options c
        | .byte n _ => byte options n
        | .set codes => return .set codes

/-! ## Groups -/

/-- Option letters up to a colon or a parenthesis, and whether the latter came. -/
def optionLetters (options : Options) (value : Bool) : (fuel : Nat) → Char →
    Parser (Options × Bool)
  | 0, _ => throw .groupBreaksOff
  | fuel + 1, c => do
    let continueWith (options : Options) (value : Bool) : Parser (Options × Bool) := do
      match ← next with
      | none => throw .groupBreaksOff
      | some c => optionLetters options value fuel c
    match c with
    | ')' => return (options, true)
    | ':' => return (options, false)
    | '-' => continueWith options false
    | 'i' => continueWith { options with ignoreCase := value } value
    | 'm' => continueWith { options with dotAll := value } value
    | 'x' => continueWith { options with extended := value } value
    | 'W' => continueWith { options with asciiWord := value } value
    | 'D' => continueWith { options with asciiDigit := value } value
    | 'S' => continueWith { options with asciiSpace := value } value
    | 'P' => continueWith { options with asciiBracket := value } value
    | _ => throw .unknownOption

/-- The condition of a group if it asks for other groups; nothing if it is a pattern. -/
def groupCondition : Parser (Option Pattern) := do
  let start ← rest
  let (close, isEnclosed) := match start.head? with
    | some '<' => ('>', true)
    | some '\'' => ('\'', true)
    | _ => (')', false)
  let isNumber : Bool := match start.head? with
    | some c => c.isDigit || c = '-' || c = '+'
    | none => false
  if isEnclosed then skip else if ¬ isNumber then return none
  let condition ← match ← reference close with
    | .name name =>
      match ← groupsOf name with
      | [] => throw (.unknownName name)
      | groups => pure (.ifSet groups true)
    | number =>
      match absolute (← get).groups number with
      | some (n + 1) => pure (.ifSet [n + 1] false)
      | _ => throw .badBackReference
  if isEnclosed ∧ ¬ (← skipIf ')') then throw .groupBreaksOff
  return some condition

/-- Passes the parenthesis that closes a group. -/
def closeGroup : Parser Unit := do
  if ¬ (← skipIf ')') then throw .groupNotClosed

mutual

/-- Alternatives up to the end of the group, or of the source if there is no group. -/
def alternatives (options : Options) (inGroup : Bool) : (fuel : Nat) → Parser Pattern
  | 0 => throw .tooDeep
  | fuel + 1 => do
    let first ← sequence options inGroup fuel
    if ← skipIf '|' then return .alt first (← alternatives options inGroup fuel)
    else if inGroup ∧ (← atEnd) then throw .groupNotClosed
    else return first

def sequence (options : Options) (inGroup : Bool) : (fuel : Nat) → Parser Pattern
  | 0 => throw .tooDeep
  | fuel + 1 => do
    skipAll options
    match ← peek with
    | none | some '|' => return .empty
    | some ')' => if inGroup then return .empty else throw .closedWithoutGroup
    | some _ =>
      match ← piece options inGroup fuel with
      | .tail pattern => return pattern
      | .one pattern =>
        let repeated ← repetitions options pattern (← rest).length
        return .append repeated (← sequence options inGroup fuel)

def piece (options : Options) (inGroup : Bool) : (fuel : Nat) → Parser Piece
  | 0 => throw .tooDeep
  | fuel + 1 => do
    if (← repetition).isSome then throw .nothingToRepeat
    match ← next with
    | none => return .tail .empty
    | some '.' => return .one (if options.dotAll then .anything else .dot)
    | some '^' => return .one (.anchor .lineStart)
    | some '$' => return .one (.anchor .lineEnd)
    | some '\\' => .one <$> escapeAtom options
    | some '[' =>
      let (codes, isThere) ← classBody options (2 * (← rest).length + 8)
      return .one (.charClass options codes isThere)
    | some '(' => group options inGroup fuel
    | some c => return .one (.literal options c)

/-- A group whose opening parenthesis has been read. -/
def group (options : Options) (inGroup : Bool) : (fuel : Nat) → Parser Piece
  | 0 => throw .tooDeep
  | fuel + 1 => do
    if ← atEnd then throw .groupNotClosed
    let inner (options : Options) : Parser Pattern := do
      let pattern ← alternatives options true fuel
      closeGroup
      return pattern
    let named (close : Char) : Parser Piece := do
      let name ← groupName close
      let n ← openGroup
      nameGroup name n
      return .one (.capture n true (← inner options))
    if ¬ (← skipIf '?') then
      let n ← openGroup
      return .one (.capture n false (← inner options))
    match ← next with
    | none => throw .groupBreaksOff
    | some ':' => .one <$> inner options
    | some '=' => return .one (.ahead true (← inner options))
    | some '!' => return .one (.ahead false (← inner options))
    | some '>' => return .one (.atomic (← inner options))
    | some '\'' => named '\''
    | some '<' =>
      if ← atEnd then throw .groupNotClosed
      if ← skipIf '=' then return .one (.behind true (← inner options))
      if ← skipIf '!' then return .one (.behind false (← inner options))
      named '>'
    | some '~' =>
      if ← atEnd then throw .groupBreaksOff
      if ← skipIf '|' then
        if ← atEnd then throw .groupBreaksOff
        if ← skipIf ')' then return .one .clearStopper
        match ← inner options with
        | .alt barrier body => return .one (.enclosed (.absent barrier body))
        | barrier => return .one (.enclosed (.stopper barrier))
      return .one (.enclosed
        (.absent (← inner options) (.repeated 0 none .greedy .anything)))
    | some '(' =>
      let condition ← match ← groupCondition with
        | some condition => pure condition
        | none => inner options
      if ← atEnd then throw .groupBreaksOff
      if ← skipIf ')' then
        match condition with
        | .ifSet .. => return .one condition
        | _ => throw .badCondition
      if ← skipIf '|' then
        return .one (.conditional condition .empty (← inner options))
      match ← inner options with
      | .alt yes no => return .one (.conditional condition yes no)
      | yes => return .one (.conditional condition yes .empty)
    | some c =>
      let (options, isIsolated) ← optionLetters options true ((← rest).length + 1) c
      if isIsolated then return .tail (.enclosed (← alternatives options inGroup fuel))
      return .one (.enclosed (← inner options))

end

/-- The pattern of a whole source, with the groups it opens. -/
def whole (source : String) : Except Error (Pattern × Source) :=
  let chars := source.toList
  (alternatives {} false (8 * (chars.length + 2))).run { rest := chars }

end Parser

end LineScopes.Regex
