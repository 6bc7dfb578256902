/-!
# Byte spans of a text

Positions in a text count the bytes of its UTF-8 encoding. A span that does
not cut a character has a slice; any span within the text has bytes, which
are shown as text with a replacement character for what is not well formed.
-/

namespace LineScopes.Text

/-- A span of bytes: where it starts, and where the text after it starts. -/
structure Span where
  start : Nat
  stop : Nat
  deriving DecidableEq, Repr, Inhabited

/-- What is left after `n` bytes, unless that cuts a character. -/
def dropBytes : Nat → List Char → Option (List Char)
  | 0, chars => some chars
  | _ + 1, [] => none
  | n + 1, c :: rest => if c.utf8Size ≤ n + 1 then dropBytes (n + 1 - c.utf8Size) rest else none

/-- The characters of the first `n` bytes, unless that cuts a character. -/
def takeBytes : Nat → List Char → Option (List Char)
  | 0, _ => some []
  | _ + 1, [] => none
  | n + 1, c :: rest =>
    if c.utf8Size ≤ n + 1 then (takeBytes (n + 1 - c.utf8Size) rest).map (c :: ·) else none

/-- The text of a span whose ends are in order and between characters. -/
def slice? (text : String) (span : Span) : Option String :=
  if span.start ≤ span.stop then
    ((dropBytes span.start text.toList).bind (takeBytes (span.stop - span.start))).map String.ofList
  else none

def utf8 (text : String) : List UInt8 := text.toUTF8.data.toList

/-- The bytes of a span that lies within the text. -/
def bytes? (text : String) (span : Span) : Option (List UInt8) :=
  let all := utf8 text
  if span.start ≤ span.stop ∧ span.stop ≤ all.length then
    some ((all.drop span.start).take (span.stop - span.start))
  else none

/-! ## Bytes as text -/

/-- The lead byte's share of the code point, the number of bytes that follow it, and the
bounds of the first of them. -/
def leadByte (byte : UInt8) : Option (Nat × Nat × UInt8 × UInt8) :=
  if byte < 0x80 then some (byte.toNat, 0, 0x80, 0xBF)
  else if 0xC2 ≤ byte ∧ byte ≤ 0xDF then some (byte.toNat - 0xC0, 1, 0x80, 0xBF)
  else if 0xE0 ≤ byte ∧ byte ≤ 0xEF then
    some (byte.toNat - 0xE0, 2,
      if byte = 0xE0 then 0xA0 else 0x80, if byte = 0xED then 0x9F else 0xBF)
  else if 0xF0 ≤ byte ∧ byte ≤ 0xF4 then
    some (byte.toNat - 0xF0, 3,
      if byte = 0xF0 then 0x90 else 0x80, if byte = 0xF4 then 0x8F else 0xBF)
  else none

/-- Reads up to `count` bytes that continue a character, the first one within `lo` and `hi`;
answers the code point if all are there, and the rest. -/
def continuation (lo hi : UInt8) : Nat → Nat → List UInt8 → Option Nat × List UInt8
  | 0, code, rest => (some code, rest)
  | _ + 1, _, [] => (none, [])
  | count + 1, code, byte :: rest =>
    if lo ≤ byte ∧ byte ≤ hi then
      continuation 0x80 0xBF count (64 * code + (byte.toNat - 0x80)) rest
    else (none, byte :: rest)

/-- One character, or a replacement character for the longest start of one that breaks off. -/
def decodeChar (byte : UInt8) (rest : List UInt8) : Char × List UInt8 :=
  match leadByte byte with
  | none => ('\uFFFD', rest)
  | some (code, count, lo, hi) =>
    match continuation lo hi count code rest with
    | (some code, rest) => (Char.ofNat code, rest)
    | (none, rest) => ('\uFFFD', rest)

theorem continuation_length (lo hi : UInt8) (count code : Nat) (bytes : List UInt8) :
    (continuation lo hi count code bytes).2.length ≤ bytes.length := by
  induction count generalizing lo hi code bytes with
  | zero => simp [continuation]
  | succ count ih =>
    cases bytes with
    | nil => simp [continuation]
    | cons byte rest =>
      simp only [continuation]
      split
      · exact Nat.le_succ_of_le (ih ..)
      · simp

theorem decodeChar_length (byte : UInt8) (rest : List UInt8) :
    (decodeChar byte rest).2.length ≤ rest.length := by
  unfold decodeChar
  split
  · simp
  · next code count lo hi _ =>
    have h := continuation_length lo hi count code rest
    split <;> simp_all

def decodeLossyChars : List UInt8 → List Char
  | [] => []
  | byte :: rest => (decodeChar byte rest).1 :: decodeLossyChars (decodeChar byte rest).2
termination_by bytes => bytes.length
decreasing_by exact Nat.lt_succ_of_le (decodeChar_length byte rest)

def decodeLossy (bytes : List UInt8) : String := String.ofList (decodeLossyChars bytes)

end LineScopes.Text
