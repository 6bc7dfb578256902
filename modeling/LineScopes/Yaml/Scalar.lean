import LineScopes.Unicode.CodeSet
import LineScopes.Yaml.Cursor

/-!
# YAML scalars

Each reader starts after the character that the scalar begins with and ends
behind the scalar. `level` is the least column of what belongs to the block
around the scalar.
-/

namespace LineScopes.Yaml

/-! ## Gaps between words -/

/-- Blanks and line ends between two words: the blanks before the first line end, and what the
line ends stand for. -/
structure Gap where
  blanks : List Char := []
  lineEnds : List (List Char) := []

namespace Gap

/-- A gap that begins with a line end that does not count. -/
def escaped : Gap := { lineEnds := [[]] }

/-- A single line end between words is a space; of several, all but the first are kept. -/
def text (gap : Gap) : List Char :=
  match gap.lineEnds with
  | [] => gap.blanks
  | [['\n']] => [' ']
  | ['\n'] :: others => others.flatten
  | all => all.flatten

/-- Reads a gap. A tab before the column `level` of a further line does not belong there. -/
def read (level : Nat) (gap : Gap) (cursor : Cursor) : (fuel : Nat) → Except Fault (Gap × Cursor)
  | 0 => .ok (gap, cursor)
  | fuel + 1 =>
    match cursor.lineEnd? with
    | some (lineEnd, cursor) =>
      read level { gap with lineEnds := gap.lineEnds ++ [lineEnd] } cursor fuel
    | none =>
      match cursor.char? with
      | some c =>
        if ¬ isBlank c then .ok (gap, cursor)
        else if gap.lineEnds.isEmpty then
          read level { gap with blanks := gap.blanks ++ [c] } (cursor.skip 1) fuel
        else if c = '\t' ∧ cursor.column < level then .error "a tab stands in the indentation"
        else read level gap (cursor.skip 1) fuel
      | none => .ok (gap, cursor)

end Gap

/-! ## Plain scalars -/

/-- Whether a plain scalar ends before a character. -/
def endsPlain (inFlow : Bool) (cursor : Cursor) : Bool :=
  cursor.isAt fun c =>
    (c = ':' && cursor.isGapAhead 1) || (inFlow && ",[]\x7b\x7d".toList.contains c)

/-- The characters of a word of a plain scalar. -/
def plainWord (inFlow : Bool) (word : List Char) (cursor : Cursor) :
    (fuel : Nat) → Except Fault (List Char × Cursor)
  | 0 => .ok (word.reverse, cursor)
  | fuel + 1 =>
    match cursor.char? with
    | none => .ok (word.reverse, cursor)
    | some c =>
      if isBlank c ∨ isBreak c then .ok (word.reverse, cursor)
      else if inFlow ∧ c = ':' ∧ (cursor.ahead? 1).any (",?[]\x7b\x7d".toList.contains ·) then
        .error "a colon stands where a value cannot"
      else if endsPlain inFlow cursor then .ok (word.reverse, cursor)
      else plainWord inFlow (c :: word) (cursor.skip 1) fuel

structure Plain where
  text : List Char
  cursor : Cursor
  /-- The scalar is followed by the end of its line. -/
  endsLine : Bool

/-- Reads the words of a plain scalar and the gaps between them. -/
def readPlain (inFlow : Bool) (level : Nat) (text : List Char) (gap : Gap) (cursor : Cursor) :
    (fuel : Nat) → Except Fault Plain
  | 0 => .ok ⟨text, cursor, false⟩
  | fuel + 1 => do
    let done : Plain := ⟨text, cursor, ¬ gap.lineEnds.isEmpty⟩
    if cursor.isAtDocumentMark ∨ cursor.isAt (· = '#') then return done
    let (word, after) ← plainWord inFlow [] cursor (cursor.rest.length + 1)
    let text := if word.isEmpty then text else text ++ gap.text ++ word
    let carried := if word.isEmpty then gap else {}
    if ¬ after.isAt fun c => isBlank c || isBreak c then
      return ⟨text, after, ¬ carried.lineEnds.isEmpty⟩
    let (gap, after) ← carried.read level after (after.rest.length + 1)
    if ¬ inFlow ∧ after.column < level then return ⟨text, after, ¬ gap.lineEnds.isEmpty⟩
    readPlain inFlow level text gap after fuel

/-! ## Quoted scalars -/

/-- The characters that an escape stands for by a single letter. -/
def letterEscape? : Char → Option Char
  | '0' => some '\x00'
  | 'a' => some '\x07'
  | 'b' => some '\x08'
  | 't' | '\t' => some '\t'
  | 'n' => some '\n'
  | 'v' => some '\x0B'
  | 'f' => some '\x0C'
  | 'r' => some '\r'
  | 'e' => some '\x1B'
  | ' ' => some ' '
  | '"' => some '"'
  | '/' => some '/'
  | '\\' => some '\\'
  | 'N' => some '\u0085'
  | '_' => some '\u00A0'
  | 'L' => some '\u2028'
  | 'P' => some '\u2029'
  | _ => none

/-- How many hexadecimal digits follow the letter of an escape. -/
def escapeLength? : Char → Option Nat
  | 'x' => some 2
  | 'u' => some 4
  | 'U' => some 8
  | _ => none

/-- The character of an escape, after the backslash. -/
def readEscape (cursor : Cursor) : Except Fault (Char × Cursor) :=
  match cursor.char? with
  | none => .error "an escape breaks off"
  | some letter =>
    match letterEscape? letter, escapeLength? letter with
    | some c, _ => .ok (c, cursor.skip 1)
    | none, none => .error "an escape is not known"
    | none, some length =>
      let digits := (cursor.rest.drop 1).take length
      match digits.mapM Unicode.hexDigit? with
      | none => .error "an escape has no hexadecimal number"
      | some values =>
        let code := values.foldl (fun n digit => 16 * n + digit) 0
        if digits.length = length ∧ code.isValidChar then
          .ok (Char.ofNat code, cursor.skip (1 + length))
        else .error "an escape stands for no character"

/-- The characters up to a gap or to the closing quote, in reverse, and whether the line was
ended by a backslash. -/
def quotedWord (quote : Char) (word : List Char) (cursor : Cursor) :
    (fuel : Nat) → Except Fault (List Char × Bool × Cursor)
  | 0 => .ok (word, false, cursor)
  | fuel + 1 =>
    match cursor.rest with
    | [] => .ok (word, false, cursor)
    | c :: rest =>
      if isBlank c ∨ isBreak c then .ok (word, false, cursor)
      else if c = quote then
        if quote = '\'' ∧ rest.head? = some '\'' then
          quotedWord quote ('\'' :: word) (cursor.skip 2) fuel
        else .ok (word, false, cursor)
      else if quote = '"' ∧ c = '\\' then
        match (cursor.skip 1).lineEnd? with
        | some (_, after) => .ok (word, true, after)
        | none => do
          let (escaped, after) ← readEscape (cursor.skip 1)
          quotedWord quote (escaped :: word) after fuel
      else quotedWord quote (c :: word) (cursor.skip 1) fuel

def readQuoted (quote : Char) (text : List Char) (cursor : Cursor) :
    (fuel : Nat) → Except Fault (List Char × Cursor)
  | 0 => .error "a quoted scalar does not end"
  | fuel + 1 => do
    if cursor.isAtDocumentMark then throw "a document begins or ends in a quoted scalar"
    if cursor.isAtEnd then throw "a quoted scalar does not end"
    let (word, isEscaped, after) ← quotedWord quote [] cursor (cursor.rest.length + 1)
    let text := text ++ word.reverse
    if after.isAt (· = quote) then return (text, after.skip 1)
    let gap : Gap := if isEscaped then .escaped else {}
    let (gap, after) ← gap.read 0 after (after.rest.length + 1)
    readQuoted quote (text ++ gap.text) after fuel

/-! ## Block scalars -/

/-- What becomes of the line ends at the end of a block. -/
inductive Chomping
  | strip
  | clip
  | keep
  deriving DecidableEq

def chomping? (c : Char) : Option Chomping :=
  if c = '+' then some .keep else if c = '-' then some .strip else none

/-- The number of columns that a block is indented by, if it is told. -/
def readIncrement (cursor : Cursor) : Except Fault (Nat × Cursor) :=
  match cursor.char? with
  | some c =>
    if c = '0' then .error "a block is indented by nothing"
    else if c.isDigit then .ok (c.toNat - '0'.toNat, cursor.skip 1)
    else .ok (0, cursor)
  | none => .ok (0, cursor)

def readChomping (cursor : Cursor) : Option (Chomping × Cursor) :=
  (cursor.char?.bind chomping?).map (·, cursor.skip 1)

/-- The line ends before the next line of a block that holds something, and the largest column
met in them. An indentation of zero is not known yet. -/
def blockBreaks (indent : Nat) (breaks : List Char) (widest : Nat) (cursor : Cursor) :
    (fuel : Nat) → Except Fault (List Char × Nat × Cursor)
  | 0 => .ok (breaks, widest, cursor)
  | fuel + 1 =>
    let spaces := cursor.rest.takeWhile (· = ' ')
    let count := if indent = 0 then spaces.length else min spaces.length (indent - cursor.column)
    let cursor := cursor.skip count
    let widest := max widest cursor.column
    if (indent = 0 ∨ cursor.column < indent) ∧ cursor.isAt (· = '\t') then
      .error "a tab stands in the indentation"
    else
      match cursor.lineEnd? with
      | some (lineEnd, cursor) => blockBreaks indent (breaks ++ lineEnd) widest cursor fuel
      | none => .ok (breaks, widest, cursor)

structure Block where
  text : List Char := []
  /-- The end of the last line. -/
  lineEnd : List Char := []
  /-- The empty lines after it. -/
  breaks : List Char
  /-- The last line begins with a blank. -/
  isIndented : Bool := false

/-- Adds a line to a block. Folding makes a space of the line end between two lines that do not
begin with blanks. -/
def Block.add (block : Block) (isFolded startsBlank : Bool) (line : List Char) : Block :=
  let joined :=
    if isFolded ∧ block.lineEnd = ['\n'] ∧ ¬ block.isIndented ∧ ¬ startsBlank then
      if block.breaks.isEmpty then [' '] else block.breaks
    else block.lineEnd ++ block.breaks
  { text := block.text ++ joined ++ line, lineEnd := [], breaks := [], isIndented := startsBlank }

/-- Reads the lines of a block that stand at its column. -/
def blockLines (isFolded : Bool) (indent : Nat) (block : Block) (cursor : Cursor) :
    (fuel : Nat) → Except Fault (Block × Cursor)
  | 0 => .ok (block, cursor)
  | fuel + 1 => do
    if cursor.column ≠ indent ∨ cursor.isAtEnd then return (block, cursor)
    let (line, after) := cursor.takeWhile fun c => ¬ isBreak c
    let block := block.add isFolded (cursor.isAt isBlank) line
    let (lineEnd, after) := after.lineEnd?.getD ([], after)
    let (breaks, _, after) ← blockBreaks indent [] 0 after (after.rest.length + 1)
    blockLines isFolded indent { block with lineEnd, breaks } after fuel

/-- The indicators of a block: what becomes of its end, and its indentation. -/
def readHeader (cursor : Cursor) : Except Fault (Chomping × Nat × Cursor) := do
  match readChomping cursor with
  | some (chomping, cursor) => do
    let (increment, cursor) ← readIncrement cursor
    return (chomping, increment, cursor)
  | none => do
    let (increment, cursor) ← readIncrement cursor
    if increment = 0 then return (.clip, 0, cursor)
    match readChomping cursor with
    | some (chomping, cursor) => return (chomping, increment, cursor)
    | none => return (.clip, increment, cursor)

def readBlock (isFolded : Bool) (level : Nat) (cursor : Cursor) :
    Except Fault (List Char × Cursor) := do
  let (chomping, increment, cursor) ← readHeader cursor
  let cursor := (cursor.skipWhile isBlank).skipComment
  if ¬ cursor.isAtLineEnd then throw "a block begins on the line of its indicator"
  let cursor := (cursor.lineEnd?.map (·.2)).getD cursor
  let told := if increment = 0 then 0 else (level - 1) + increment
  let fuel := cursor.rest.length + 1
  let (breaks, widest, cursor) ← blockBreaks told [] 0 cursor fuel
  let indent := if told = 0 then max (max widest level) 1 else told
  let (block, cursor) ← blockLines isFolded indent { breaks } cursor fuel
  return (match chomping with
    | .strip => block.text
    | .clip => block.text ++ block.lineEnd
    | .keep => block.text ++ block.lineEnd ++ block.breaks, cursor)

end LineScopes.Yaml
