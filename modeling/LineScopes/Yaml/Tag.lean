import LineScopes.Text.Bytes
import LineScopes.Unicode.CodeSet
import LineScopes.Yaml.Cursor
import LineScopes.Yaml.Token

/-!
# YAML names, tags and directives
-/

namespace LineScopes.Yaml

/-- The name of an anchor or alias, after the character that introduces it. -/
def readAnchorName (cursor : Cursor) : Except Fault (String × Cursor) :=
  let (name, after) := cursor.takeWhile isNameChar
  if name.isEmpty ∨ ¬ (after.isGapAhead 0 ∨ after.isAt ("?:,]\x7d%@\x60".toList.contains ·)) then
    .error "an anchor has no name"
  else .ok (String.ofList name, after)

/-! ## Tags -/

/-- Exclamation marks around a name, of which there need not be one; the second mark may be
left out. -/
def readTagHandle (cursor : Cursor) : Except Fault (List Char × Cursor) :=
  if ¬ cursor.isAt (· = '!') then .error "a tag has no handle"
  else
    let (name, after) := (cursor.skip 1).takeWhile isNameChar
    if after.isAt (· = '!') then .ok ('!' :: name ++ ['!'], after.skip 1)
    else .ok ('!' :: name, after)

def isTagChar (inBrackets : Bool) (c : Char) : Bool :=
  isNameChar c || ";/?:@&=+$.%!~*'()".toList.contains c || (inBrackets && ",[]".toList.contains c)

/-- The bytes that percent signs and hexadecimal numbers stand for. -/
def readPercents (bytes : List UInt8) : (chars : List Char) → List UInt8 × List Char
  | '%' :: a :: b :: rest =>
    match Unicode.hexDigit? a, Unicode.hexDigit? b with
    | some a, some b => readPercents (UInt8.ofNat (16 * a + b) :: bytes) rest
    | _, _ => (bytes.reverse, '%' :: a :: b :: rest)
  | chars => (bytes.reverse, chars)

/-- The characters that a part of a tag stands for. -/
def decodeTag : List Char → Except Fault (List Char)
  | '%' :: rest =>
    let (bytes, after) := readPercents [] ('%' :: rest)
    if _h : after.length ≤ rest.length then
      match String.fromUTF8? ⟨bytes.toArray⟩ with
      | none => .error "a tag has escapes that are no text"
      | some text => (text.toList ++ ·) <$> decodeTag after
    else .error "a tag has an escape without a number"
  | c :: rest => (c :: ·) <$> decodeTag rest
  | [] => .ok []
termination_by chars => chars.length

/-- The part of a tag that follows the handle. -/
def readTagSuffix (inBrackets : Bool) (cursor : Cursor) : Except Fault (List Char × Cursor) := do
  let (raw, after) := cursor.takeWhile (isTagChar inBrackets)
  return (← decodeTag raw, after)

/-- A tag, at its first exclamation mark. -/
def readTag (inFlow : Bool) (cursor : Cursor) : Except Fault (Token × Cursor) := do
  let (token, after) ←
    if cursor.ahead? 1 = some '<' then do
      let (suffix, after) ← readTagSuffix true (cursor.skip 2)
      if suffix.isEmpty ∨ ¬ after.isAt (· = '>') then throw "a tag does not end"
      pure (Token.tag "" (String.ofList suffix), after.skip 1)
    else do
      let (handle, after) ← readTagHandle cursor
      let (suffix, after) ← readTagSuffix false after
      if 1 < handle.length ∧ handle.getLast? = some '!' then
        if suffix.isEmpty then throw "a tag is only a handle"
        pure (Token.tag (String.ofList handle) (String.ofList suffix), after)
      else
        let suffix := handle.drop 1 ++ suffix
        if suffix.isEmpty then pure (Token.tag "" "!", after)
        else pure (Token.tag "!" (String.ofList suffix), after)
  if ¬ ((inFlow ∧ after.isAt (· = ',')) ∨ after.isGapAhead 0) then
    throw "a tag is not followed by a blank"
  return (token, after)

/-! ## Directives -/

def readVersionNumber (cursor : Cursor) : Except Fault (Nat × Cursor) :=
  let (digits, after) := cursor.takeWhile Char.isDigit
  if digits.isEmpty ∨ 9 < digits.length then .error "a version has no number"
  else .ok (digits.foldl (fun n c => 10 * n + (c.toNat - '0'.toNat)) 0, after)

def readVersion (cursor : Cursor) : Except Fault (Token × Cursor) := do
  let (major, cursor) ← readVersionNumber (cursor.skipWhile isBlank)
  if ¬ cursor.isAt (· = '.') then throw "a version has no second number"
  let (minor, cursor) ← readVersionNumber (cursor.skip 1)
  return (.version major minor, cursor)

def readTagDirective (cursor : Cursor) : Except Fault (Token × Cursor) := do
  let (handle, cursor) ← readTagHandle (cursor.skipWhile isBlank)
  if 1 < handle.length ∧ handle.getLast? ≠ some '!' then throw "a handle does not end"
  if ¬ cursor.isAt isBlank then throw "a handle has no meaning"
  let (meaning, cursor) ← readTagSuffix true (cursor.skipWhile isBlank)
  if meaning.isEmpty ∨ ¬ cursor.isGapAhead 0 then throw "a handle has no meaning"
  return (.tagDirective (String.ofList handle) (String.ofList meaning), cursor)

/-- A directive, after its percent sign, up to the end of its line. -/
def readDirective (cursor : Cursor) : Except Fault (Token × Cursor) := do
  let (name, cursor) := cursor.takeWhile isNameChar
  if ¬ cursor.isGapAhead 0 then throw "a directive has no name"
  let (token, cursor) ←
    if name = "YAML".toList then readVersion cursor
    else if name = "TAG".toList then readTagDirective cursor
    else throw "a directive is not known"
  let cursor := (cursor.skipWhile isBlank).skipComment
  if ¬ cursor.isAtLineEnd then throw "a directive is not followed by the end of its line"
  return (token, (cursor.lineEnd?.map (·.2)).getD cursor)

end LineScopes.Yaml
