import LineScopes.Json.Failure

/-!
# Reading JSON by bytes

A reader moves a cursor over the bytes of a document. After a failure the
cursor stays where reading stopped: the offset of a failure found later in the
same container depends on it.
-/

namespace LineScopes.Json

structure Cursor where
  offset : Nat
  /-- How many containers may still be opened, one inside the other. -/
  depth : Nat
  deriving DecidableEq, Repr

abbrev Reader := ReaderT ByteArray (EStateM Failure Cursor)

namespace Reader

def offset : Reader Nat := return (← get).offset

def moveTo (offset : Nat) : Reader Unit := modify fun cursor => { cursor with offset := offset }

def skip : Reader Unit := modify fun cursor => { cursor with offset := cursor.offset + 1 }

/-- The byte at the cursor. -/
def peek : Reader (Option UInt8) := return (← read)[← offset]?

/-- The byte at the cursor, which moves on if there is one. -/
def next : Reader (Option UInt8) := do
  let byte ← peek
  if byte.isSome then skip
  return byte

/-- Fails at the cursor. -/
def failHere (fault : Fault) : Reader α := do throw ⟨fault, some (← offset)⟩

/-- Fails behind the byte at the cursor. -/
def failAhead (fault : Fault) : Reader α := do
  throw ⟨fault, some (min (← read).size ((← offset) + 1))⟩

def failUnlocated (fault : Fault) : Reader α := throw ⟨fault, none⟩

/-- The outcome of a reader as a value; the cursor stays where the reader left it. -/
def attempt (reader : Reader α) : Reader (Except Failure α) :=
  fun bytes cursor => match reader bytes cursor with
    | .ok value cursor => .ok (.ok value) cursor
    | .error failure cursor => .ok (.error failure) cursor

/-- Failures without an offset get the one that the cursor has reached. -/
def located (reader : Reader α) : Reader α := do
  match ← attempt reader with
  | .ok value => return value
  | .error failure => throw (failure.locate (← offset))

def isSpace (byte : UInt8) : Bool := byte = 0x20 ∨ byte = 0x0A ∨ byte = 0x09 ∨ byte = 0x0D

def isDigit (byte : UInt8) : Bool := 0x30 ≤ byte ∧ byte ≤ 0x39

/-- The first offset from `offset` on whose byte fails the test. -/
def skipFrom (bytes : ByteArray) (test : UInt8 → Bool) (offset : Nat) : Nat :=
  if h : offset < bytes.size then
    if test bytes[offset] then skipFrom bytes test (offset + 1) else offset
  else offset
termination_by bytes.size - offset

def skipWhile (test : UInt8 → Bool) : Reader Unit := do
  moveTo (skipFrom (← read) test (← offset))

/-- The byte after any white space. -/
def peekToken : Reader (Option UInt8) := do
  skipWhile isSpace
  peek

/-- A bound on the steps that the rest of the document allows. -/
def remaining : Reader Nat := return (← read).size + 1 - (← offset)

/-- Reads the rest of a word whose first letter has been read. -/
def word : List UInt8 → Reader Unit
  | [] => return
  | byte :: rest => do
    match ← next with
    | none => failHere .valueBreaksOff
    | some found => if found = byte then word rest else failHere .wrongWord

/-! ## Texts -/

def hexValue? (byte : UInt8) : Option Nat :=
  if isDigit byte then some (byte.toNat - 0x30)
  else if 0x41 ≤ byte ∧ byte ≤ 0x46 then some (byte.toNat - 0x37)
  else if 0x61 ≤ byte ∧ byte ≤ 0x66 then some (byte.toNat - 0x57)
  else none

/-- Four hexadecimal digits. -/
def fourDigits : Reader Nat := do
  let bytes ← read
  let at_ ← offset
  if bytes.size < at_ + 4 then
    moveTo bytes.size
    failHere .textBreaksOff
  else
    moveTo (at_ + 4)
    let digits := [at_, at_ + 1, at_ + 2, at_ + 3].filterMap fun i => bytes[i]?.bind hexValue?
    if digits.length = 4 then return digits.foldl (fun n d => 16 * n + d) 0
    else failHere .badEscape

/-- Passes a byte if it is the one that a surrogate pair has next. -/
def pairByte (byte : UInt8) : Reader Unit := do
  match ← peek with
  | none => failHere .textBreaksOff
  | some found =>
    skip
    if found ≠ byte then failHere .shortSurrogate

/-- The character of an escape `\u`, after that. -/
def unicodeEscape : Reader Char := do
  let unit ← fourDigits
  if 0xDC00 ≤ unit ∧ unit ≤ 0xDFFF then failHere .loneSurrogate
  else if unit < 0xD800 ∨ 0xDBFF < unit then return Char.ofNat unit
  else
    pairByte 0x5C
    pairByte 0x75
    let second ← fourDigits
    if second < 0xDC00 ∨ 0xDFFF < second then failHere .loneSurrogate
    else return Char.ofNat ((unit - 0xD800) * 0x400 + (second - 0xDC00) + 0x10000)

/-- The character of an escape, after its backslash. -/
def escape : Reader Char := do
  match ← next with
  | none => failHere .textBreaksOff
  | some 0x22 => return '"'
  | some 0x5C => return '\\'
  | some 0x2F => return '/'
  | some 0x62 => return '\x08'
  | some 0x66 => return '\x0c'
  | some 0x6E => return '\n'
  | some 0x72 => return '\r'
  | some 0x74 => return '\t'
  | some 0x75 => unicodeEscape
  | some _ => failHere .badEscape

def isPlain (byte : UInt8) : Bool := byte ≠ 0x22 ∧ byte ≠ 0x5C ∧ 0x20 ≤ byte

/-- The text between two offsets that do not cut a character. -/
def copy (bytes : ByteArray) (start stop : Nat) : String :=
  (String.fromUTF8? (bytes.extract start stop)).getD ""

/-- The rest of a text whose opening quote has been read. -/
def textFrom (read? : String) : (fuel : Nat) → Reader String
  | 0 => failHere .textBreaksOff
  | fuel + 1 => do
    let start ← offset
    skipWhile isPlain
    let text := read? ++ copy (← read) start (← offset)
    match ← next with
    | none => failHere .textBreaksOff
    | some 0x22 => return text
    | some 0x5C => textFrom (text.push (← escape)) fuel
    | some _ => failHere .controlCharacter

def text : Reader String := do textFrom "" (← remaining)

/-- Passes an escape without asking whether its surrogates are paired. -/
def skipEscape : Reader Unit := do
  match ← next with
  | none => failHere .textBreaksOff
  | some 0x75 => discard fourDigits
  | some byte =>
    if ¬ [0x22, 0x5C, 0x2F, 0x62, 0x66, 0x6E, 0x72, 0x74].contains byte then failHere .badEscape

def skipTextFrom : (fuel : Nat) → Reader Unit
  | 0 => failHere .textBreaksOff
  | fuel + 1 => do
    skipWhile isPlain
    match ← peek with
    | none => failHere .textBreaksOff
    | some 0x22 => skip
    | some 0x5C => do
      skip
      skipEscape
      skipTextFrom fuel
    | some _ => failHere .controlCharacter

def skipText : Reader Unit := do skipTextFrom (← remaining)

end Reader

end LineScopes.Json
