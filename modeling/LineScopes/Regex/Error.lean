/-!
# What can be wrong with a regular expression
-/

namespace LineScopes.Regex

inductive Error
  | groupNotClosed
  | groupBreaksOff
  | closedWithoutGroup
  | classNotClosed
  | emptyClass
  | emptyRange
  | setEndsRange
  | escapeBreaksOff
  | controlBreaksOff
  | badControl
  | badMeta
  | nothingToRepeat
  | notRepeatable
  | hugeRepeat
  | unknownOption
  | emptyName
  | badName (name : String)
  | badNameChar (name : String)
  | unknownName (name : String)
  | unknownGroup (name : String)
  | badBackReference
  | badLookBehind
  | numberedReference
  | hugeNumber
  | unknownProperty (name : String)
  | unknownBracketClass
  | badCode
  | hugeCode
  | longCode
  | shortCode
  | badBytes
  | shortBytes
  | badCondition
  | endlessRecursion
  | tooDeep
  deriving DecidableEq, Repr

/-- Longer names are cut. -/
def maxNameBytes : Nat := 30

def cutName (name : String) : String :=
  let (kept, _) := name.toList.foldl (fun (kept, bytes) c =>
    (if bytes + c.utf8Size ≤ maxNameBytes then c :: kept else kept, bytes + c.utf8Size))
    (([] : List Char), 0)
  if name.utf8ByteSize ≤ maxNameBytes then name else String.ofList kept.reverse ++ "..."

def Error.message : Error → String
  | groupNotClosed => "end pattern with unmatched parenthesis"
  | groupBreaksOff => "end pattern in group"
  | closedWithoutGroup => "unmatched close parenthesis"
  | classNotClosed => "premature end of char-class"
  | emptyClass => "empty char-class"
  | emptyRange => "empty range in char class"
  | setEndsRange => "char-class value at end of range"
  | escapeBreaksOff => "end pattern at escape"
  | controlBreaksOff => "end pattern at control"
  | badControl => "invalid control-code syntax"
  | badMeta => "invalid meta-code syntax"
  | nothingToRepeat => "target of repeat operator is not specified"
  | notRepeatable => "target of repeat operator is invalid"
  | hugeRepeat => "too big number for repeat range"
  | unknownOption => "undefined group option"
  | emptyName => "group name is empty"
  | badName name => "invalid group name <" ++ cutName name ++ ">"
  | badNameChar name => "invalid char in group name <" ++ cutName name ++ ">"
  | unknownName name => "undefined name <" ++ cutName name ++ "> reference"
  | unknownGroup name => "undefined group <" ++ cutName name ++ "> reference"
  | badBackReference => "invalid backref number/name"
  | badLookBehind => "invalid pattern in look-behind"
  | numberedReference => "numbered backref/call is not allowed. (use name)"
  | hugeNumber => "too big number"
  | unknownProperty name => "invalid character property name \x7b" ++ cutName name ++ "\x7d"
  | unknownBracketClass => "invalid POSIX bracket type"
  | badCode => "invalid code point value"
  | hugeCode => "too big wide-char value"
  | longCode => "too long wide-char value"
  | shortCode => "too short digits"
  | badBytes => "invalid wide-char value"
  | shortBytes => "too short multibyte string"
  | badCondition => "invalid if-else syntax"
  | endlessRecursion => "never ending recursion"
  | tooDeep => "parse depth limit over"

end LineScopes.Regex
