import LineScopes.Regex.Error
import LineScopes.Unicode.Property

/-!
# Reading the source of a regular expression

The characters still to be read, and what has been learnt on the way: how many
groups have been opened and which of them have names.
-/

namespace LineScopes.Regex

structure Options where
  ignoreCase : Bool := false
  dotAll : Bool := false
  extended : Bool := false
  asciiWord : Bool := false
  asciiDigit : Bool := false
  asciiSpace : Bool := false
  asciiBracket : Bool := false
  deriving DecidableEq, Repr

structure Source where
  rest : List Char
  groups : Nat := 0
  /-- Named groups, the latest first. -/
  names : List (String × Nat) := []

abbrev Parser := StateT Source (Except Error)

namespace Parser

def rest : Parser (List Char) := return (← get).rest

def setRest (rest : List Char) : Parser Unit := modify fun source => { source with rest := rest }

def atEnd : Parser Bool := return (← rest).isEmpty

def peek : Parser (Option Char) := return (← rest).head?

def next : Parser (Option Char) := do
  match ← rest with
  | [] => return none
  | c :: rest => do
    setRest rest
    return some c

def skip : Parser Unit := modify fun source => { source with rest := source.rest.drop 1 }

/-- Passes the character if it is next. -/
def skipIf (c : Char) : Parser Bool := do
  if (← peek) = some c then
    skip
    return true
  return false

/-- Reads at most so many characters that pass the test. -/
def takeUpTo (count : Nat) (test : Char → Bool) : Parser (List Char) := do
  let rest ← rest
  let taken := (rest.take count).takeWhile test
  setRest (rest.drop taken.length)
  return taken

def isOctal (c : Char) : Bool := '0' ≤ c ∧ c ≤ '7'

def isHex (c : Char) : Bool := (Unicode.hexDigit? c).isSome

def octal (digits : List Char) : Nat :=
  digits.foldl (fun n c => 8 * n + (c.toNat - 48)) 0

def decimal (digits : List Char) : Nat :=
  digits.foldl (fun n c => 10 * n + (c.toNat - 48)) 0

/-- Numbers that a machine integer of 32 bits can hold. -/
def maxNumber : Nat := 0x7FFFFFFF

/-- A decimal number, nothing if there are no digits. -/
def number (tooBig : Error) : Parser (Option Nat) := do
  let digits ← takeUpTo (← rest).length Char.isDigit
  if digits.isEmpty then return none
  let n := decimal digits
  if maxNumber < n then throw tooBig
  return some n

def openGroup : Parser Nat :=
  modifyGet fun source => (source.groups + 1, { source with groups := source.groups + 1 })

def nameGroup (name : String) (group : Nat) : Parser Unit :=
  modify fun source => { source with names := (name, group) :: source.names }

/-- The groups of a name, the latest first. -/
def groupsOf (name : String) : Parser (List Nat) :=
  return ((← get).names.filter fun entry => entry.1 = name).map Prod.snd

/-! ## Names of groups -/

/-- What stands between the brackets of a reference. -/
inductive Reference
  | absolute (n : Nat)
  | relative (isForward : Bool) (n : Nat)
  | name (s : String)

def isWord (c : Char) : Bool := Unicode.wordChars.contains c

/-- The characters up to the closing bracket or a parenthesis, with what follows it. -/
def upToClose (close : Char) (chars : List Char) : List Char × List Char :=
  let name := chars.takeWhile fun c => c ≠ close ∧ c ≠ ')'
  (name, (chars.drop name.length).drop 1)

/-- Refuses a name; the message shows it up to where it ends. -/
def badName (error : String → Error) (close : Char) (chars : List Char) : Parser α :=
  throw (error (String.ofList (chars.take 1 ++ (upToClose close (chars.drop 1)).1)))

def groupName (close : Char) : Parser String := do
  let chars ← rest
  match chars with
  | [] => throw .emptyName
  | first :: others =>
    if first = close then throw .emptyName
    else if first.isDigit ∨ first = '-' ∨ first = '+' then badName .badName close chars
    else if ¬ isWord first then badName .badNameChar close chars
    else
      let (name, after) := upToClose close others
      if ¬ name.all isWord then badName .badNameChar close chars
      else if others[name.length]? ≠ some close then throw (.badName (String.ofList chars))
      else
        setRest after
        return String.ofList (first :: name)

def reference (close : Char) : Parser Reference := do
  let chars ← rest
  match chars with
  | [] => throw .emptyName
  | first :: others =>
    let signed := first = '-' ∨ first = '+'
    if signed ∨ first.isDigit then
      let (text, after) := upToClose close (if signed then others else chars)
      if ¬ text.all Char.isDigit then
        badName (if text.all isWord then .badName else .badNameChar) close chars
      else if text.isEmpty then badName .badName close chars
      else if (if signed then others else chars)[text.length]? ≠ some close then
        throw (.badName (String.ofList chars))
      else
        let n := decimal text
        if maxNumber < n then throw .hugeNumber
        if signed ∧ n = 0 then badName .badName close chars
        setRest after
        return if signed then .relative (first = '+') n else .absolute n
    else return .name (← groupName close)

/-- The number of a referenced group, counted from the groups opened so far. -/
def absolute (groups : Nat) : Reference → Option Nat
  | .absolute n => some n
  | .relative true n => some (groups + n)
  | .relative false n => if n ≤ groups then some (groups + 1 - n) else none
  | .name _ => none

end Parser

end LineScopes.Regex
