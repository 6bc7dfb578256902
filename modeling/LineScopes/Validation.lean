import LineScopes.Text.Quoted
import LineScopes.Token

/-!
# Validating tokens

The tokens of a line are compared with the tokens that are expected, one by
one, up to the first difference: first their number, then for each the text
and then the scopes. Expected scopes are written with the outermost first, the
other way round than in tokens.
-/

namespace LineScopes

structure ExpectedToken where
  value : String
  scopes : List String := []
  deriving DecidableEq, Repr

inductive ScopeComparison
  | equal
  | differ (position : Nat) (expected actual : String)
  | actualExhausted (position : Nat) (missing : String)
  | expectedExhausted (position : Nat) (extra : String)
  deriving DecidableEq, Repr

/-- Compares two lists of scopes whose elements are counted from `position` on. -/
def compareScopesFrom (position : Nat) : (expected actual : List String) → ScopeComparison
  | [], [] => .equal
  | missing :: _, [] => .actualExhausted position missing
  | [], extra :: _ => .expectedExhausted position extra
  | expected :: restExpected, actual :: restActual =>
    if expected = actual then compareScopesFrom (position + 1) restExpected restActual
    else .differ position expected actual

def compareScopes (expected actual : List String) : ScopeComparison :=
  compareScopesFrom 0 expected actual

inductive Side
  | expected
  | actual
  deriving DecidableEq, Repr

def Side.name : Side → String
  | expected => "expected"
  | actual => "actual"

inductive Mismatch
  | tokenCount (expected actual : Nat) (leftover : Side) (firstLeftover : String)
  | tokenValue (index : Nat) (expected actual : String)
  | scope (index position : Nat) (expected actual : String)
  | missingScope (index position : Nat) (scope : String)
  | extraScope (index position : Nat) (scope : String)
  deriving DecidableEq, Repr

def Mismatch.message : Mismatch → String
  | tokenCount expected actual leftover firstLeftover =>
    "token count mismatch: expected " ++ toString expected ++ ", got " ++ toString actual ++
      " (" ++ leftover.name ++ " has leftover token " ++ Text.quoted firstLeftover ++ ")"
  | tokenValue index expected actual =>
    "token " ++ toString index ++ ": expected value " ++ Text.quoted expected ++ ", got " ++
      Text.quoted actual
  | scope index position expected actual =>
    "token " ++ toString index ++ ", scope " ++ toString position ++ ": expected " ++
      Text.quoted expected ++ ", got " ++ Text.quoted actual
  | missingScope index position missing =>
    "token " ++ toString index ++ ", scope " ++ toString position ++ ": expected scope " ++
      Text.quoted missing ++ " is not in the token"
  | extraScope index position extra =>
    "token " ++ toString index ++ ", scope " ++ toString position ++ ": extra scope " ++
      Text.quoted extra ++ " is present in the token"

/-- The text of a token as far as it can be shown. -/
def Token.shown (token : Token) (line : String) : String :=
  match Text.bytes? line token.span with
  | some bytes => Text.decodeLossy bytes
  | none => "<out of range>"

/-- Whether the token consists of the bytes of the value. -/
def Token.hasValue (token : Token) (line value : String) : Bool :=
  Text.bytes? line token.span = some (Text.utf8 value)

def validateScopes (index : Nat) (expected actual : List String) : Except Mismatch Unit :=
  match compareScopes expected.reverse actual with
  | .equal => .ok ()
  | .differ position expected actual => .error (.scope index position expected actual)
  | .actualExhausted position missing => .error (.missingScope index position missing)
  | .expectedExhausted position extra => .error (.extraScope index position extra)

/-- Compares tokens that are counted from `index` on. A token that is left over on one side is
not looked at. -/
def validateTokens (line : String) (index : Nat) :
    List Token → List ExpectedToken → Except Mismatch Unit
  | token :: tokens, expected :: rest => do
    if ¬ token.hasValue line expected.value then
      throw (.tokenValue index expected.value (token.shown line))
    validateScopes index expected.scopes token.scopes
    validateTokens line (index + 1) tokens rest
  | _, _ => .ok ()

def validateLine (line : String) (actual : List Token) (expected : List ExpectedToken) :
    Except Mismatch Unit :=
  match expected.drop actual.length, actual.drop expected.length with
  | left :: _, _ =>
    .error (.tokenCount expected.length actual.length .expected left.value)
  | [], left :: _ =>
    .error (.tokenCount expected.length actual.length .actual (left.shown line))
  | [], [] => validateTokens line 0 actual expected

end LineScopes
