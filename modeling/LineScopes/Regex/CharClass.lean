import LineScopes.Regex.Escape

/-!
# Character classes in brackets

A class lists characters, ranges, escapes, bracket classes and other classes;
an intersection sign takes the common part of what stands before and after it.
A hyphen that does not stand between two characters means itself.
-/

namespace LineScopes.Regex

open Unicode (CodeSet)

inductive ClassToken
  | char (c : Char)
  | byte (n base : Nat)
  | set (codes : CodeSet)
  /-- A bracket and a colon with a closing pair ahead. -/
  | bracketClass
  | opening
  | closing
  | hyphen
  | both
  | sourceEnd

/-- What the class has read last. -/
inductive ClassState
  | start
  | char (c : Char)
  | set
  | range (first : Char)
  | complete

structure ClassBuild where
  state : ClassState := .start
  codes : CodeSet := .empty
  /-- The common part of the operands before the last intersection sign. -/
  before : Option CodeSet := none

namespace ClassBuild

def addCodes (build : ClassBuild) (codes : CodeSet) : ClassBuild :=
  { build with codes := build.codes.union codes }

/-- Adds the character read last, which did not begin a range. -/
def flush (build : ClassBuild) : ClassBuild :=
  match build.state with
  | .char c => build.addCodes (.singleton c.toNat)
  | _ => build

def addChar (build : ClassBuild) (c : Char) : Except Error ClassBuild :=
  match build.state with
  | .range first =>
    if c.toNat < first.toNat then .error .emptyRange
    else .ok { build.addCodes (.ofRanges [(first.toNat, c.toNat)]) with state := .complete }
  | _ => .ok { build.flush with state := .char c }

def addSet (build : ClassBuild) (codes : CodeSet) : Except Error ClassBuild :=
  match build.state with
  | .range _ => .error .setEndsRange
  | _ => .ok { build.flush.addCodes codes with state := .set }

def addClass (build : ClassBuild) (codes : CodeSet) : ClassBuild :=
  { build.flush.addCodes codes with state := .complete }

def conjoined (build : ClassBuild) : CodeSet :=
  match build.before with
  | some before => before.inter build.flush.codes
  | none => build.flush.codes

def conjoin (build : ClassBuild) : ClassBuild :=
  { state := .start, codes := .empty, before := some build.conjoined }

end ClassBuild

namespace Parser

/-- Whether a colon and a closing bracket come before any closing bracket alone. -/
def closesBracketClass : List Char → Bool
  | '\\' :: _ :: rest => closesBracketClass rest
  | ':' :: ']' :: _ => true
  | ']' :: _ => false
  | _ :: rest => closesBracketClass rest
  | [] => false

/-- Whether a closing bracket that is not escaped comes. -/
def closesLater : List Char → Bool
  | '\\' :: _ :: rest => closesLater rest
  | ']' :: _ => true
  | _ :: rest => closesLater rest
  | [] => false

def classToken (options : Options) : Parser ClassToken := do
  match ← next with
  | none => return .sourceEnd
  | some ']' => return .closing
  | some '-' => return .hyphen
  | some '[' =>
    match ← rest with
    | ':' :: rest => return if closesBracketClass rest then .bracketClass else .opening
    | _ => return .opening
  | some '&' => return if ← skipIf '&' then .both else .char '&'
  | some '\\' =>
    match ← next with
    | none => throw .escapeBreaksOff
    | some c =>
      if isOctal c then
        return .byte (octal (c :: (← takeUpTo 2 isOctal)) % 256) 8
      else match ← escape options c with
        | .char c => return .char c
        | .byte n base => return .byte n base
        | .set codes => return .set codes
  | some c => return .char c

/-- The character that begins with this byte, and the token after it. -/
def classBytes (options : Options) (base count : Nat) (bytes : List Nat) :
    Parser (Option Char × ClassToken) := do
  let token ← classToken options
  match count with
  | 0 => return (decode bytes, token)
  | count + 1 =>
    match token with
    | .byte n other =>
      if other ≠ base then throw .shortBytes
      classBytes options base count (bytes ++ [n])
    | _ => throw .shortBytes

/-- A class by name in brackets, its opening bracket read; nothing if it is not one. -/
def bracketClass (options : Options) : Parser (Option CodeSet) := do
  let chars := (← rest).drop 1
  let (isThere, name) := match chars with
    | '^' :: name => (false, name)
    | name => (true, name)
  let known := if name.length < 7 then none
    else Unicode.bracketClasses.find? fun entry => entry.1.toList.isPrefixOf name
  match known with
  | some (text, codes) =>
    match name.drop text.length with
    | ':' :: ']' :: after =>
      setRest after
      let codes := if options.asciiBracket then codes.inter Unicode.ascii else codes
      return some (if isThere then codes else codes.compl)
    | _ => throw .unknownBracketClass
  | none =>
    let word := (name.takeWhile fun c => c ≠ ':' ∧ c ≠ ']')
    match name.drop word.length with
    | ':' :: ']' :: _ => if word.length ≤ 20 then throw .unknownBracketClass else return none
    | _ => return none

mutual

def classItems (options : Options) (build : ClassBuild) :
    (fuel : Nat) → ClassToken → Parser CodeSet
  | 0, _ => throw .tooDeep
  | fuel + 1, token => do
    match token with
    | .closing => return build.conjoined
    | .sourceEnd => throw .classNotClosed
    | .char c => classItems options (← build.addChar c) fuel (← classToken options)
    | .byte n base =>
      let (c, token) ← classBytes options base (encodedLength n - 1) [n]
      match c with
      | some c => classItems options (← build.addChar c) fuel token
      | none =>
        if encodedLength n = 1 then classItems options (← build.addSet .empty) fuel token
        else throw .badBytes
    | .set codes => classItems options (← build.addSet codes) fuel (← classToken options)
    | .bracketClass =>
      match ← bracketClass options with
      | some codes => classItems options (← build.addSet codes) fuel (← classToken options)
      | none => classItems options (← build.addChar '[') fuel (← classToken options)
    | .opening =>
      let (inner, isThere) ← classBody options fuel
      let codes := if isThere then inner else inner.compl
      classItems options (build.addClass codes) fuel (← classToken options)
    | .both => classItems options build.conjoin fuel (← classToken options)
    | .hyphen =>
      match build.state with
      | .char first =>
        match ← classToken options with
        | .closing => classItems options (← build.addChar '-') fuel .closing
        | .both => classItems options (← build.addChar '-') fuel .both
        | token => classItems options { build with state := .range first } fuel token
      | _ => classItems options (← build.addChar '-') fuel (← classToken options)

/-- A class whose opening bracket has been read: what it lists, and whether it is that. -/
def classBody (options : Options) : (fuel : Nat) → Parser (CodeSet × Bool)
  | 0 => throw .tooDeep
  | fuel + 1 => do
    let isThere := ! (← skipIf '^')
    match ← classToken options with
    | .closing =>
      if ¬ closesLater (← rest) then throw .emptyClass
      return (← classItems options {} fuel (.char ']'), isThere)
    | token => return (← classItems options {} fuel token, isThere)

end

end Parser

end LineScopes.Regex
