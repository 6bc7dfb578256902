import LineScopes.Document.Basic
import LineScopes.Json.Number

/-!
# JSON documents

The readers of the document descriptions. A container is entered only while
the nesting allows it, and is left by its closing bracket even after a failure
inside it. A record may also be written as the list of its fields.
-/

namespace LineScopes.Json

open Document (Value Field)

namespace Reader

/-- A value that does not belong here is read far enough to say what it is. -/
def wrongType (expected : String) : Reader α :=
  let found (text : String) : Reader α := failUnlocated (.wrongType text expected)
  located do
    match ← peekToken with
    | none => failAhead .valueBreaksOff
    | some 0x6E => do skip; word [0x75, 0x6C, 0x6C]; found "null"
    | some 0x74 => do skip; word [0x72, 0x75, 0x65]; found "boolean `true`"
    | some 0x66 => do skip; word [0x61, 0x6C, 0x73, 0x65]; found "boolean `false`"
    | some 0x22 => do skip; found ("string " ++ Text.quoted (← text))
    | some 0x5B => found "sequence"
    | some 0x7B => found "map"
    | some 0x2D => do skip; found (← number true).describe
    | some byte => if isDigit byte then found (← number false).describe else failAhead .noValue

def readText (expected : String) : Reader String := do
  match ← peekToken with
  | some 0x22 => do skip; text
  | _ => wrongType expected

def readBoolean : Reader Bool := do
  match ← peekToken with
  | some 0x74 => do skip; word [0x72, 0x75, 0x65]; return true
  | some 0x66 => do skip; word [0x61, 0x6C, 0x73, 0x65]; return false
  | _ => wrongType "a boolean"

def readOptional (reader : Reader α) : Reader (Option α) := do
  match ← peekToken with
  | some 0x6E => do skip; word [0x75, 0x6C, 0x6C]; return none
  | _ => some <$> reader

/-! ## Containers -/

def closeList : Reader Unit := do
  match ← peekToken with
  | some 0x5D => skip
  | some 0x2C => do
    skip
    failAhead (if (← peekToken) = some 0x5D then .trailingComma else .trailingCharacters)
  | some _ => failAhead .trailingCharacters
  | none => failAhead .listBreaksOff

def closeObject : Reader Unit := do
  match ← peekToken with
  | some 0x7D => skip
  | some 0x2C => failAhead .trailingComma
  | some _ => failAhead .trailingCharacters
  | none => failAhead .objectBreaksOff

/-- Opens a container, reads what is in it and closes it. The first failure counts, and one
without an offset is found where the container has been closed. -/
def inside (body : Reader α) (close : Reader Unit) : Reader α := do
  let depth := (← get).depth
  if depth ≤ 1 then failAhead .tooDeep
  skip
  modify fun cursor => { cursor with depth := depth - 1 }
  match ← attempt body with
  | .ok value => do
    modify fun cursor => { cursor with depth := depth }
    located close
    return value
  | .error failure =>
    modify fun cursor => { cursor with depth := depth }
    discard (attempt close)
    throw (failure.locate (← offset))

/-- Whether another item follows in a list. -/
def moreItems (first : Bool) : Reader Bool := do
  match ← peekToken with
  | none => failAhead .listBreaksOff
  | some 0x5D => return false
  | some byte =>
    if first then return true
    else if byte = 0x2C then
      skip
      match ← peekToken with
      | some 0x5D => failAhead .trailingComma
      | some _ => return true
      | none => failAhead .valueBreaksOff
    else failAhead .noListEnd

/-- Whether another entry follows in an object; its key's quote is then next. -/
def moreEntries (first : Bool) : Reader Bool := do
  match ← peekToken with
  | none => failAhead .objectBreaksOff
  | some 0x7D => return false
  | some byte =>
    if first then
      if byte = 0x22 then return true else failAhead .keyNotText
    else if byte = 0x2C then
      skip
      match ← peekToken with
      | some 0x22 => return true
      | some 0x7D => failAhead .trailingComma
      | some _ => failAhead .keyNotText
      | none => failAhead .valueBreaksOff
    else failAhead .noObjectEnd

def key : Reader String := do
  skip
  text

def colon : Reader Unit := do
  match ← peekToken with
  | some 0x3A => skip
  | some _ => failAhead .noColon
  | none => failAhead .objectBreaksOff

def items (reader : Reader α) (done : List α) : (fuel : Nat) → Reader (List α)
  | 0 => return done.reverse
  | fuel + 1 => do
    if ← moreItems done.isEmpty then items reader ((← reader) :: done) fuel
    else return done.reverse

def readList (reader : Reader α) : Reader (List α) := do
  match ← peekToken with
  | some 0x5B => inside (do items reader [] (← remaining)) closeList
  | _ => wrongType "a sequence"

def entriesFrom (reader : Reader α) (first : Bool) (done : List (String × α)) :
    (fuel : Nat) → Reader (List (String × α))
  | 0 => return done
  | fuel + 1 => do
    if ← moreEntries first then
      let name ← key
      colon
      entriesFrom reader false (Document.put done name (← reader)) fuel
    else return done

def readEntries (reader : Reader α) : Reader (List (String × α)) := do
  match ← peekToken with
  | some 0x7B => inside (do entriesFrom reader true [] (← remaining)) closeObject
  | _ => wrongType "a map"

/-! ## Values that no field asks for -/

/-- An open container that is passed over. -/
inductive Bracket
  | list
  | object

def Bracket.breaksOff : Bracket → Fault
  | .list => .listBreaksOff
  | .object => .objectBreaksOff

def Bracket.noEnd : Bracket → Fault
  | .list => .noListEnd
  | .object => .noObjectEnd

def Bracket.closing : Bracket → UInt8
  | .list => 0x5D
  | .object => 0x7D

/-- Passes one value, or only the bracket that opens it. -/
def skipToken : Reader (Option Bracket) := do
  match ← peekToken with
  | none => failAhead .valueBreaksOff
  | some 0x6E => do skip; word [0x75, 0x6C, 0x6C]; return none
  | some 0x74 => do skip; word [0x72, 0x75, 0x65]; return none
  | some 0x66 => do skip; word [0x61, 0x6C, 0x73, 0x65]; return none
  | some 0x22 => do skip; skipText; return none
  | some 0x5B => do skip; return some .list
  | some 0x7B => do skip; return some .object
  | some 0x2D => do skip; skipNumber; return none
  | some byte => do
    if isDigit byte then
      skipNumber
      return none
    else failAhead .noValue

/-- Passes closing brackets; answers the containers still open, a comma behind the value
having been passed too. -/
def skipClosing (comma : Bool) : List Bracket → Reader (List Bracket)
  | [] => return []
  | bracket :: outer => do
    match ← peekToken with
    | none => failAhead bracket.breaksOff
    | some byte =>
      if comma ∧ byte = 0x2C then
        skip
        return bracket :: outer
      else if byte = bracket.closing then
        skip
        skipClosing true outer
      else if comma then failAhead bracket.noEnd
      else return bracket :: outer

/-- Passes the key of an entry. -/
def skipKey : Reader Unit := do
  match ← peekToken with
  | some 0x22 => do skip; skipText
  | some _ => failAhead .keyNotText
  | none => failAhead .objectBreaksOff
  colon

def skipValues (outer : List Bracket) : (fuel : Nat) → Reader Unit
  | 0 => return
  | fuel + 1 => do
    let stack ← match ← skipToken with
      | some bracket => skipClosing false (bracket :: outer)
      | none => skipClosing true outer
    match stack with
    | [] => return
    | .list :: _ => skipValues stack fuel
    | .object :: _ => do
      skipKey
      skipValues stack fuel

/-- Passes a value. Its containers do not count for the nesting, nor need its numbers fit or
its surrogates be paired. -/
def skipValue : Reader Unit := do skipValues [] (← remaining)

/-! ## Records -/

def missing (fields : List (Field Reader ρ)) (seen : List String) : Option String :=
  (fields.find? fun field => field.isRequired && !seen.contains field.name).map Field.name

def fieldsFrom (fields : List (Field Reader ρ)) (first : Bool) (seen : List String)
    (value : ρ) : (fuel : Nat) → Reader ρ
  | 0 => return value
  | fuel + 1 => do
    if ← moreEntries first then
      let name ← key
      match fields.find? fun field => field.name = name with
      | none =>
        colon
        skipValue
        fieldsFrom fields false seen value fuel
      | some field =>
        if seen.contains name then failUnlocated (.repeatedField name)
        else
          colon
          let set ← field.read
          fieldsFrom fields false (name :: seen) (set value) fuel
    else match missing fields seen with
      | some name => failUnlocated (.missingField name)
      | none => return value

/-- The fields in their order; only optional ones may be left out at the end. -/
def positional (expected : String) (value : ρ) (index : Nat) : List (Field Reader ρ) → Reader ρ
  | [] => return value
  | field :: rest => do
    if ← moreItems (index = 0) then
      let set ← field.read
      positional expected (set value) (index + 1) rest
    else if field.isRequired then failUnlocated (.wrongLength index expected)
    else positional expected value (index + 1) rest

def readRecord (name : String) (fields : List (Field Reader ρ)) (value : ρ) : Reader ρ := do
  let description := "struct " ++ name
  let elements := " with " ++ Nat.repr fields.length ++
    if fields.length = 1 then " element" else " elements"
  match ← peekToken with
  | some 0x5B => inside (positional (description ++ elements) value 0 fields) closeList
  | some 0x7B => inside (do fieldsFrom fields true [] value (← remaining)) closeObject
  | _ => wrongType description

/-! ## Values of any form -/

def Number.value : Number → Value
  | .integer n => .integer n
  | .real _ => .real

def readValue : (fuel : Nat) → Reader Value
  | 0 => failAhead .tooDeep
  | fuel + 1 => located do
    match ← peekToken with
    | none => failAhead .valueBreaksOff
    | some 0x6E => do skip; word [0x75, 0x6C, 0x6C]; return .null
    | some 0x74 => do skip; word [0x72, 0x75, 0x65]; return .boolean true
    | some 0x66 => do skip; word [0x61, 0x6C, 0x73, 0x65]; return .boolean false
    | some 0x22 => do skip; return .text (← text)
    | some 0x5B => return .list (← inside (do items (readValue fuel) [] (← remaining)) closeList)
    | some 0x7B =>
      return .map (← inside (do entriesFrom (readValue fuel) true [] (← remaining)) closeObject)
    | some 0x2D => do skip; return Number.value (← number true)
    | some byte =>
      if isDigit byte then return Number.value (← number false) else failAhead .noValue

def readChoice (name : String) (pick : Value → Option α) : Reader α := do
  let value ← readValue (← get).depth
  match pick value with
  | some choice => return choice
  | none => failUnlocated (.noChoice name)

end Reader

instance : Document.Format Reader where
  text := Reader.readText
  boolean := Reader.readBoolean
  optional := Reader.readOptional
  list := Reader.readList
  entries := Reader.readEntries
  record := Reader.readRecord
  choose := Reader.readChoice
  tooDeep := Reader.failAhead .tooDeep

/-- One more than the number of containers that may stand inside each other. -/
def maxDepth : Nat := 128

/-- A document is one value, with nothing but white space around it. -/
def readDocument (reader : Reader α) (source : String) : Except String α :=
  let bytes := source.toUTF8
  let whole : Reader α := do
    let value ← reader
    if (← Reader.peekToken).isSome then Reader.failAhead .trailingCharacters
    return value
  match whole bytes ⟨0, maxDepth⟩ with
  | .ok value _ => .ok value
  | .error failure _ => .error (failure.message bytes.toList)

end LineScopes.Json
