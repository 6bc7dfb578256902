import LineScopes.Text.Bytes

/-!
# Tokens

A token is a span of bytes of its line with the scopes that apply to it, the
innermost first. Its end is a number of 64 bits like its offset and length,
so a span that reaches further stops at the last of them.
-/

namespace LineScopes

structure Token where
  offset : Nat
  length : Nat
  scopes : List String
  deriving DecidableEq, Repr

def maxOffset : Nat := UInt64.size - 1

def Token.span (token : Token) : Text.Span :=
  ⟨token.offset, min (token.offset + token.length) maxOffset⟩

/-- The text of the token, if its span is a slice of the line. -/
def Token.text? (token : Token) (line : String) : Option String := Text.slice? line token.span

end LineScopes
