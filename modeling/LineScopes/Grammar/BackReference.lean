import LineScopes.Engine
import LineScopes.Text.Blank
import LineScopes.Text.Number

/-!
# Back-references to a begin match

The pattern that ends a rule may refer to the capture groups of the match
that began it: a backslash and a group number stand for the captured text,
taken literally. Such a pattern is compiled only when the text is known.
-/

namespace LineScopes.BackReference

/-- Whether a backslash that is not itself escaped stands before a digit. -/
def occursIn : List Char → Bool
  | '\\' :: c :: rest => c.isDigit || occursIn rest
  | _ :: rest => occursIn rest
  | [] => false

def isIn (pattern : String) : Bool := occursIn pattern.toList

/-- Characters with a meaning of their own in a pattern. -/
def isSpecial (c : Char) : Bool := Text.isBlank c || "-\\\x7b\x7d*+?|^$.,[]()#".toList.contains c

/-- A pattern that matches the text and nothing else. -/
def literal (text : List Char) : List Char :=
  text.flatMap fun c => if isSpecial c then ['\\', c] else [c]

def resolveChars (groups : Groups) (text : String) : List Char → List Char
  | '\\' :: rest =>
    let digits := rest.takeWhile Char.isDigit
    if digits.isEmpty then
      match rest with
      | c :: rest => '\\' :: c :: resolveChars groups text rest
      | [] => ['\\']
    else
      literal (groups.captured text (Text.decimal digits)).toList ++
        resolveChars groups text (rest.dropWhile Char.isDigit)
  | c :: rest => c :: resolveChars groups text rest
  | [] => []
termination_by pattern => pattern.length
decreasing_by
  · simp +arith
  · have := (List.dropWhile_suffix Char.isDigit (l := rest)).length_le
    simp only [List.length_cons]
    omega
  · simp

/-- The pattern with the captured text in place of each back-reference; other escapes stay. -/
def resolve (pattern : String) (groups : Groups) (text : String) : String :=
  String.ofList (resolveChars groups text pattern.toList)

end LineScopes.BackReference
