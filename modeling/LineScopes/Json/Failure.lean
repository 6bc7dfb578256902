import LineScopes.Text.Quoted

/-!
# What can be wrong with a JSON document

A failure has a cause and the offset of the byte at which it was noticed. A
cause found by looking at a whole value gets its offset from the container
around it.
-/

namespace LineScopes.Json

inductive Fault
  | listBreaksOff
  | objectBreaksOff
  | textBreaksOff
  | valueBreaksOff
  | noColon
  | noListEnd
  | noObjectEnd
  | wrongWord
  | noValue
  | badEscape
  | badNumber
  | hugeNumber
  | controlCharacter
  | keyNotText
  | loneSurrogate
  | shortSurrogate
  | trailingComma
  | trailingCharacters
  | tooDeep
  | wrongType (found expected : String)
  | wrongLength (length : Nat) (expected : String)
  | repeatedField (name : String)
  | missingField (name : String)
  | noChoice (name : String)
  deriving DecidableEq, Repr

def Fault.message : Fault → String
  | .listBreaksOff => "EOF while parsing a list"
  | .objectBreaksOff => "EOF while parsing an object"
  | .textBreaksOff => "EOF while parsing a string"
  | .valueBreaksOff => "EOF while parsing a value"
  | .noColon => "expected `:`"
  | .noListEnd => "expected `,` or `]`"
  | .noObjectEnd => "expected `,` or `\x7d`"
  | .wrongWord => "expected ident"
  | .noValue => "expected value"
  | .badEscape => "invalid escape"
  | .badNumber => "invalid number"
  | .hugeNumber => "number out of range"
  | .controlCharacter => "control character (\\u0000-\\u001F) found while parsing a string"
  | .keyNotText => "key must be a string"
  | .loneSurrogate => "lone leading surrogate in hex escape"
  | .shortSurrogate => "unexpected end of hex escape"
  | .trailingComma => "trailing comma"
  | .trailingCharacters => "trailing characters"
  | .tooDeep => "recursion limit exceeded"
  | .wrongType found expected => "invalid type: " ++ found ++ ", expected " ++ expected
  | .wrongLength length expected =>
    "invalid length " ++ Nat.repr length ++ ", expected " ++ expected
  | .repeatedField name => "duplicate field `" ++ name ++ "`"
  | .missingField name => "missing field `" ++ name ++ "`"
  | .noChoice name => "data did not match any variant of untagged enum " ++ name

structure Failure where
  fault : Fault
  offset : Option Nat
  deriving DecidableEq, Repr

/-- Gives a failure an offset unless it has one. -/
def Failure.locate (failure : Failure) (offset : Nat) : Failure :=
  { failure with offset := some (failure.offset.getD offset) }

/-- The line of an offset, from one, and the number of bytes before the offset in it. -/
def lineAndColumn (bytes : List UInt8) (offset : Nat) : Nat × Nat :=
  (bytes.take offset).foldl (fun (line, column) (byte : UInt8) =>
    if byte = 0x0A then (line + 1, 0) else (line, column + 1)) (1, 0)

def Failure.message (failure : Failure) (bytes : List UInt8) : String :=
  failure.fault.message ++ match failure.offset with
  | none => ""
  | some offset =>
    let (line, column) := lineAndColumn bytes offset
    " at line " ++ Nat.repr line ++ " column " ++ Nat.repr column

end LineScopes.Json
