import LineScopes.Yaml.Scalar
import LineScopes.Yaml.Tag

/-!
# From YAML text to tokens

A block begins where something stands further to the right than the block
around it, and ends where something stands further to the left. That a scalar
is a key shows only when its colon is met, so the places where a key may have
begun are remembered; a key lies on one line and takes no more than 1024
characters.
-/

namespace LineScopes.Yaml

/-- A place where a key may have begun. -/
structure KeyStart where
  /-- The number of tokens before it. -/
  place : Nat
  /-- It is the first thing of a line in its block, so it can be nothing but a key. -/
  isRequired : Bool
  cursor : Cursor

structure Layout where
  cursor : Cursor
  tokens : Array Token := #[]
  /-- The least column of what belongs to the innermost block: one more than the column at
  which it stands. -/
  level : Nat := 0
  outerLevels : List Nat := []
  /-- A key may begin here. -/
  keyAllowed : Bool := true
  keyStart : Option KeyStart := none
  /-- The starts of keys around the flow collections that are open. -/
  outerKeyStarts : List (Option KeyStart) := []

namespace Layout

def inFlow (layout : Layout) : Bool := ¬ layout.outerKeyStarts.isEmpty

def push (layout : Layout) (token : Token) : Layout :=
  { layout with tokens := layout.tokens.push token }

def insert (layout : Layout) (place : Nat) (token : Token) : Layout :=
  { layout with
    tokens := layout.tokens.extract 0 place ++ #[token] ++ layout.tokens.extract place }

/-- Adds a token of a few characters. -/
def take (layout : Layout) (token : Token) (length : Nat) : Layout :=
  { layout.push token with cursor := layout.cursor.skip length }

/-! ## Blocks -/

/-- Ends the blocks whose content begins to the right of a column. -/
def endBlocksTo (layout : Layout) (level : Nat) : List Nat → Layout
  | [] => layout
  | outer :: rest =>
    if layout.level ≤ level then layout
    else endBlocksTo
      { layout.push .blockEnd with level := outer, outerLevels := rest } level rest

def endBlocks (layout : Layout) (level : Nat) : Layout :=
  if layout.inFlow then layout else layout.endBlocksTo level layout.outerLevels

/-- Begins a block at a column, unless the block around it stands there already. -/
def beginBlock (layout : Layout) (column place : Nat) (token : Token) : Layout :=
  if layout.inFlow ∨ column < layout.level then layout
  else
    { layout.insert place token with
      level := column + 1, outerLevels := layout.level :: layout.outerLevels }

/-! ## Keys -/

def forgetKey (layout : Layout) : Except Fault Layout :=
  if layout.keyStart.any (·.isRequired) then .error "a key has no colon"
  else .ok { layout with keyStart := none }

def markKey (layout : Layout) : Except Fault Layout := do
  if ¬ layout.keyAllowed then return layout
  let isRequired := ¬ layout.inFlow ∧ layout.level = layout.cursor.column + 1
  let layout ← layout.forgetKey
  return { layout with keyStart := some ⟨layout.tokens.size, isRequired, layout.cursor⟩ }

/-- Whether what begins at a place can no longer be a key. -/
def isPast (cursor : Cursor) (start : KeyStart) : Bool :=
  start.cursor.line < cursor.line ∨ start.cursor.index + 1024 < cursor.index

def forgetPast (cursor : Cursor) (start : Option KeyStart) : Except Fault (Option KeyStart) :=
  match start with
  | some key =>
    if ¬ isPast cursor key then .ok start
    else if key.isRequired then .error "a key has no colon"
    else .ok none
  | none => .ok none

def forgetPastKeys (layout : Layout) : Except Fault Layout := do
  let keyStart ← forgetPast layout.cursor layout.keyStart
  let outerKeyStarts ← layout.outerKeyStarts.mapM (forgetPast layout.cursor)
  return { layout with keyStart, outerKeyStarts }

/-! ## Gaps between tokens -/

/-- Passes blanks, comments and line ends. Tabs do not count as indentation. -/
def skipGap (layout : Layout) : (fuel : Nat) → Layout
  | 0 => layout
  | fuel + 1 =>
    let cursor := layout.cursor
    let cursor :=
      if cursor.column = 0 ∧ cursor.isAt (· = '\uFEFF') then cursor.skip 1 else cursor
    let tabs := layout.inFlow ∨ ¬ layout.keyAllowed
    let cursor := (cursor.skipWhile fun c => c = ' ' || (tabs && c = '\t')).skipComment
    match cursor.lineEnd? with
    | some (_, cursor) =>
      skipGap { layout with cursor, keyAllowed := layout.keyAllowed || !layout.inFlow } fuel
    | none => { layout with cursor }

/-! ## Tokens -/

def documentMark (layout : Layout) (token : Token) : Except Fault Layout := do
  let layout ← (layout.endBlocks 0).forgetKey
  return { layout.take token 3 with keyAllowed := false }

def directive (layout : Layout) : Except Fault Layout := do
  let layout ← (layout.endBlocks 0).forgetKey
  let (token, cursor) ← readDirective (layout.cursor.skip 1)
  return { layout.push token with cursor, keyAllowed := false }

def openFlow (layout : Layout) (token : Token) : Except Fault Layout := do
  let layout ← layout.markKey
  return { layout.take token 1 with
    keyAllowed := true, keyStart := none
    outerKeyStarts := layout.keyStart :: layout.outerKeyStarts }

def closeFlow (layout : Layout) (token : Token) : Except Fault Layout := do
  let layout ← layout.forgetKey
  let layout := match layout.outerKeyStarts with
    | keyStart :: outerKeyStarts => { layout with keyStart, outerKeyStarts }
    | [] => layout
  return { layout.take token 1 with keyAllowed := false }

def flowEntry (layout : Layout) : Except Fault Layout := do
  let layout ← layout.forgetKey
  return { layout.take .flowEntry 1 with keyAllowed := true }

/-- Begins a block with an indicator; it must stand where a line of the block can begin. -/
def indicate (layout : Layout) (token : Token) : Except Fault Layout :=
  if ¬ layout.inFlow ∧ ¬ layout.keyAllowed then .error "an entry begins within a line"
  else .ok (layout.beginBlock layout.cursor.column layout.tokens.size token)

def blockEntry (layout : Layout) : Except Fault Layout := do
  let layout ← (← layout.indicate .blockListStart).forgetKey
  return { layout.take .blockEntry 1 with keyAllowed := true }

def explicitKey (layout : Layout) : Except Fault Layout := do
  let layout ← (← layout.indicate .blockMapStart).forgetKey
  return { layout.take .key 1 with keyAllowed := ¬ layout.inFlow }

/-- A colon makes a key of what may have begun one. -/
def value (layout : Layout) : Except Fault Layout := do
  match layout.keyStart with
  | some start =>
    let layout := (layout.insert start.place .key).beginBlock start.cursor.column start.place
      .blockMapStart
    return { layout.take .value 1 with keyStart := none, keyAllowed := false }
  | none =>
    let layout ← layout.indicate .blockMapStart
    return { layout.take .value 1 with keyAllowed := ¬ layout.inFlow }

def anchor (layout : Layout) (token : String → Token) : Except Fault Layout := do
  let layout ← layout.markKey
  let (name, cursor) ← readAnchorName (layout.cursor.skip 1)
  return { layout.push (token name) with cursor, keyAllowed := false }

def tag (layout : Layout) : Except Fault Layout := do
  let layout ← layout.markKey
  let (token, cursor) ← readTag layout.inFlow layout.cursor
  return { layout.push token with cursor, keyAllowed := false }

def blockScalar (layout : Layout) (isFolded : Bool) : Except Fault Layout := do
  let layout ← layout.forgetKey
  let (text, cursor) ← readBlock isFolded layout.level (layout.cursor.skip 1)
  let style := if isFolded then Style.folded else .literal
  return { layout.push (.scalar (String.ofList text) style) with cursor, keyAllowed := true }

def quotedScalar (layout : Layout) (quote : Char) : Except Fault Layout := do
  let layout ← layout.markKey
  let (text, cursor) ← readQuoted quote [] (layout.cursor.skip 1) (layout.cursor.rest.length + 1)
  return { layout.push (.scalar (String.ofList text) .quoted) with cursor, keyAllowed := false }

def plainScalar (layout : Layout) : Except Fault Layout := do
  let layout ← layout.markKey
  let plain ← readPlain layout.inFlow layout.level [] {} layout.cursor
    (layout.cursor.rest.length + 1)
  return { layout.push (.scalar (String.ofList plain.text) .plain) with
    cursor := plain.cursor, keyAllowed := plain.endsLine }

/-- Characters that no plain scalar begins with, some of them unless another one follows. -/
def isIndicator (c : Char) : Bool := "-?:,[]\x7b\x7d#&*!|>'\"%@\x60".toList.contains c

def beginsPlain (layout : Layout) (c : Char) : Bool :=
  !(isBlank c || isBreak c || isIndicator c) ||
    (c = '-' && !(layout.cursor.ahead? 1).any isBlank) ||
    (!layout.inFlow && (c = '?' || c = ':') && !layout.cursor.isGapAhead 1)

/-- Adds the token that begins with a character. -/
def token (layout : Layout) (c : Char) : Except Fault Layout :=
  let standsAlone := layout.cursor.isGapAhead 1
  let inFlow := layout.inFlow
  if layout.cursor.column = 0 ∧ c = '%' then layout.directive
  else if layout.cursor.isAtDocumentMark then
    layout.documentMark (if c = '-' then .documentStart else .documentEnd)
  else if c = '[' then layout.openFlow .flowListStart
  else if c = '\x7b' then layout.openFlow .flowMapStart
  else if c = ']' then layout.closeFlow .flowListEnd
  else if c = '\x7d' then layout.closeFlow .flowMapEnd
  else if c = ',' then layout.flowEntry
  else if c = '-' ∧ standsAlone then layout.blockEntry
  else if c = '?' ∧ (inFlow ∨ standsAlone) then layout.explicitKey
  else if c = ':' ∧ (inFlow ∨ standsAlone) then layout.value
  else if c = '*' then layout.anchor .alias
  else if c = '&' then layout.anchor .anchor
  else if c = '!' then layout.tag
  else if c = '|' ∧ ¬ inFlow then layout.blockScalar false
  else if c = '>' ∧ ¬ inFlow then layout.blockScalar true
  else if c = '\'' ∨ c = '"' then layout.quotedScalar c
  else if layout.beginsPlain c then layout.plainScalar
  else .error "a character begins nothing"

/-- Adds token after token; each takes at least one character. -/
def run (layout : Layout) : (fuel : Nat) → Except Fault Layout
  | 0 => .error "the text does not end"
  | fuel + 1 => do
    let layout ← (layout.skipGap (layout.cursor.rest.length + 1)).forgetPastKeys
    match layout.cursor.char? with
    | none => (layout.endBlocks 0).forgetKey
    | some c => run (← (layout.endBlocks (layout.cursor.column + 1)).token c) fuel

end Layout

/-- Characters that may stand in a YAML text. -/
def isAllowed (c : Char) : Bool :=
  let code := c.toNat
  code = 0x09 ∨ code = 0x0A ∨ code = 0x0D ∨ (0x20 ≤ code ∧ code ≤ 0x7E) ∨ code = 0x85 ∨
    (0xA0 ≤ code ∧ code ≤ 0xFFFD) ∨ 0x10000 ≤ code

def tokens (source : String) : Except Fault (List Token) := do
  let chars := source.toList
  if ¬ chars.all isAllowed then throw "a control character stands in the text"
  let layout ← Layout.run { cursor := { rest := chars } } (chars.length + 1)
  return layout.tokens.toList

end LineScopes.Yaml
