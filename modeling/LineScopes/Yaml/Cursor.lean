/-!
# Positions in a YAML text

A cursor stands before a character and knows its line and column. Lines end
with a line feed, a carriage return or both, or with one of the line and
paragraph ends of Unicode.
-/

namespace LineScopes.Yaml

/-- What makes a text no YAML document. -/
abbrev Fault := String

structure Cursor where
  rest : List Char
  line : Nat := 0
  column : Nat := 0
  /-- How many characters stand before the cursor. -/
  index : Nat := 0

def isBlank (c : Char) : Bool := c = ' ' ∨ c = '\t'

def isBreak (c : Char) : Bool :=
  c = '\n' ∨ c = '\r' ∨ c = '\u0085' ∨ c = '\u2028' ∨ c = '\u2029'

/-- Letters, digits and the other characters of names. -/
def isNameChar (c : Char) : Bool := c.isAlphanum ∨ c = '_' ∨ c = '-'

namespace Cursor

def isAtEnd (cursor : Cursor) : Bool := cursor.rest.isEmpty

def char? (cursor : Cursor) : Option Char := cursor.rest.head?

/-- The character `n` places further on. -/
def ahead? (cursor : Cursor) (n : Nat) : Option Char := cursor.rest[n]?

/-- Whether the text goes on with one of these characters. -/
def isAt (cursor : Cursor) (test : Char → Bool) : Bool := cursor.char?.any test

/-- Whether a blank, a line's end or the end of the text stands `n` places further on. -/
def isGapAhead (cursor : Cursor) (n : Nat) : Bool :=
  (cursor.ahead? n).all fun c => isBlank c || isBreak c

def isAtLineEnd (cursor : Cursor) : Bool := cursor.char?.all isBreak

/-- Passes characters of one line. -/
def skip (cursor : Cursor) (n : Nat) : Cursor :=
  { cursor with
    rest := cursor.rest.drop n, column := cursor.column + n, index := cursor.index + n }

/-- The characters of the line that pass a test, and the cursor after them. -/
def takeWhile (cursor : Cursor) (test : Char → Bool) : List Char × Cursor :=
  let taken := cursor.rest.takeWhile test
  (taken, cursor.skip taken.length)

def skipWhile (cursor : Cursor) (test : Char → Bool) : Cursor := (cursor.takeWhile test).2

/-- Passes the end of a line; answers the text that it stands for. -/
def lineEnd? (cursor : Cursor) : Option (List Char × Cursor) :=
  let pass (n : Nat) (rest : List Char) : Cursor :=
    { rest, line := cursor.line + 1, column := 0, index := cursor.index + n }
  match cursor.rest with
  | '\r' :: '\n' :: rest => some (['\n'], pass 2 rest)
  | c :: rest =>
    if c = '\u2028' ∨ c = '\u2029' then some ([c], pass 1 rest)
    else if isBreak c then some (['\n'], pass 1 rest)
    else none
  | [] => none

/-- Passes a comment up to the end of its line. -/
def skipComment (cursor : Cursor) : Cursor :=
  if cursor.isAt (· = '#') then cursor.skipWhile fun c => ¬ isBreak c else cursor

/-- Whether a line starts with three characters that begin or end a document. -/
def isAtDocumentMark (cursor : Cursor) : Bool :=
  cursor.column = 0 ∧ cursor.isGapAhead 3 ∧
    (cursor.rest.take 3 = ['-', '-', '-'] ∨ cursor.rest.take 3 = ['.', '.', '.'])

end Cursor

end LineScopes.Yaml
