/-!
# Blanks and words

The white space of the Unicode standard, and texts cut into words at it.
-/

namespace LineScopes.Text

def isBlank (c : Char) : Bool :=
  let code := c.toNat
  (0x09 ≤ code ∧ code ≤ 0x0D) ∨ code = 0x20 ∨ code = 0x85 ∨ code = 0xA0 ∨ code = 0x1680 ∨
    (0x2000 ≤ code ∧ code ≤ 0x200A) ∨ code = 0x2028 ∨ code = 0x2029 ∨ code = 0x202F ∨
    code = 0x205F ∨ code = 0x3000

/-- The words of a text and, before them, the part of a word that the text begins with. -/
def wordsFrom : List Char → List Char × List (List Char)
  | [] => ([], [])
  | c :: rest =>
    let (word, words) := wordsFrom rest
    if isBlank c then ([], if word.isEmpty then words else word :: words) else (c :: word, words)

/-- The maximal runs of characters that are not blank. -/
def words (text : String) : List String :=
  let (word, words) := wordsFrom text.toList
  (if word.isEmpty then words else word :: words).map String.ofList

def trim (text : String) : String :=
  String.ofList ((text.toList.dropWhile isBlank).reverse.dropWhile isBlank).reverse

/-- The pieces between the separators, one more than there are separators. -/
def splitAtChar (separator : Char) : List Char → List (List Char)
  | [] => [[]]
  | c :: rest =>
    if c = separator then [] :: splitAtChar separator rest
    else match splitAtChar separator rest with
      | piece :: pieces => (c :: piece) :: pieces
      | [] => [[c]]

def split (separator : Char) (text : String) : List String :=
  (splitAtChar separator text.toList).map String.ofList

/-- What stands before and after the first separator. -/
def splitOnce (separator : Char) (text : String) : Option (String × String) :=
  match text.toList.span (· ≠ separator) with
  | (before, _ :: after) => some (String.ofList before, String.ofList after)
  | (_, []) => none

/-- Whether `part` stands somewhere in `text`. -/
def hasInfix (part : List Char) : List Char → Bool
  | [] => part.isEmpty
  | c :: rest => part.isPrefixOf (c :: rest) || hasInfix part rest

def containsText (text part : String) : Bool := hasInfix part.toList text.toList

end LineScopes.Text
