import LineScopes.Regex.Source

/-!
# Escapes

What a backslash and the characters after it stand for, inside of brackets and
outside: a character, a byte of its encoding, or a set of characters.
-/

namespace LineScopes.Regex

open Unicode (CodeSet)

inductive Escape
  | char (c : Char)
  /-- A byte written as a number in this base. -/
  | byte (n base : Nat)
  | set (codes : CodeSet)

def Options.word (options : Options) : CodeSet :=
  if options.asciiWord then Unicode.wordChars.inter Unicode.ascii else Unicode.wordChars

def Options.digit (options : Options) : CodeSet :=
  if options.asciiDigit then Unicode.digits.inter Unicode.ascii else Unicode.digits

def Options.space (options : Options) : CodeSet :=
  if options.asciiSpace then Unicode.whiteSpace.inter Unicode.ascii else Unicode.whiteSpace

namespace Parser

def codePoint (code : Nat) : Parser Char :=
  if Unicode.maxCode < code then throw .hugeCode
  else if 0xD800 ≤ code ∧ code ≤ 0xDFFF then throw .badCode
  else return Char.ofNat code

/-- A code point between braces, the opening one next; nothing if no digit is there. -/
def bracedCode (count : Nat) (isDigit : Char → Bool) (value : List Char → Nat) :
    Parser (Option Char) := do
  let start ← rest
  skip
  let digits ← takeUpTo count isDigit
  match ← peek with
  | some c =>
    if isDigit c then throw .longCode
    else if digits.isEmpty then
      setRest start
      return none
    else if c = '}' then
      skip
      some <$> codePoint (value digits)
    else throw .badCode
  | none =>
    if digits.isEmpty then
      setRest start
      return none
    else throw .badCode

/-- A property between braces, the opening one read; a circumflex denies it once more. -/
def property (isThere : Bool) : Parser CodeSet := do
  let isThere := if ← skipIf '^' then !isThere else isThere
  let chars ← rest
  let name := chars.takeWhile fun c => ¬ ['(', ')', '{', '|', '}'].contains c
  match chars.drop name.length with
  | '}' :: after =>
    match Unicode.property? (String.ofList name) with
    | some codes =>
      setRest after
      return if isThere then codes else codes.compl
    | none => throw (.unknownProperty (String.ofList name))
  | [] => throw (.unknownProperty (String.ofList name.dropLast))
  | _ => throw (.unknownProperty (String.ofList name))

/-- The control character of a letter. -/
def controlled (c : Char) : Char := if c = '?' then '\x7f' else Char.ofNat (c.toNat % 32)

def namedControl (c : Char) : Char :=
  match c with
  | 'n' => '\n'
  | 't' => '\t'
  | 'r' => '\r'
  | 'f' => '\x0c'
  | 'a' => '\x07'
  | 'b' => '\x08'
  | 'e' => '\x1b'
  | 'v' => '\x0b'
  | c => c

/-- The character behind a control or meta prefix, which may be an escape itself. -/
def controlTarget (error : Error) : (fuel : Nat) → Parser Char
  | 0 => throw error
  | fuel + 1 => do
    match ← next with
    | none => throw error
    | some '\\' =>
      match ← next with
      | none => throw .escapeBreaksOff
      | some 'c' => return controlled (← controlTarget .controlBreaksOff fuel)
      | some c => return namedControl c
    | some c => return c

/-- An escape whose first character has been read. -/
def escape (options : Options) (c : Char) : Parser Escape := do
  match c with
  | 'w' => return .set options.word
  | 'W' => return .set options.word.compl
  | 'd' => return .set options.digit
  | 'D' => return .set options.digit.compl
  | 's' => return .set options.space
  | 'S' => return .set options.space.compl
  | 'h' => return .set Unicode.hexDigits
  | 'H' => return .set Unicode.hexDigits.compl
  | 'p' => if ← skipIf '{' then .set <$> property true else return .char c
  | 'P' => if ← skipIf '{' then .set <$> property false else return .char c
  | 'x' =>
    if ← atEnd then return .char c
    if (← peek) = some '{' then
      match ← bracedCode 8 isHex Unicode.hexNumber with
      | some code => return .char code
      | none => return .char c
    else return .byte (Unicode.hexNumber (← takeUpTo 2 isHex)) 16
  | 'o' =>
    if (← peek) = some '{' then
      match ← bracedCode 11 isOctal octal with
      | some code => return .char code
      | none => return .char c
    else return .char c
  | 'u' =>
    if ← atEnd then return .char c
    let digits ← takeUpTo 4 isHex
    if digits.length < 4 then throw .shortCode
    return .char (← codePoint (Unicode.hexNumber digits))
  | 'c' => return .char (controlled (← controlTarget .controlBreaksOff 8))
  | 'C' =>
    if ← atEnd then throw .controlBreaksOff
    if ← skipIf '-' then return .char (controlled (← controlTarget .controlBreaksOff 8))
    throw .badControl
  | 'M' =>
    if ← skipIf '-' then
      return .byte (128 + (← controlTarget .badMeta 8).toNat % 128) 16
    throw .badMeta
  | c => return .char (namedControl c)

/-- How many bytes an encoded character has, by its first one. -/
def encodedLength (byte : Nat) : Nat :=
  if byte < 0xC2 then 1 else if byte < 0xE0 then 2 else if byte < 0xF0 then 3
  else if byte < 0xF5 then 4 else 1

/-- The character that bytes encode, nothing if they encode none. -/
def decode (bytes : List Nat) : Option Char :=
  match (String.fromUTF8? ⟨(bytes.map Nat.toUInt8).toArray⟩).map String.toList with
  | some [c] => some c
  | _ => none

end Parser

end LineScopes.Regex
