import LineScopes.Unicode.Binary
import LineScopes.Unicode.CaseFolding
import LineScopes.Unicode.Script

/-!
# Character classes by name

The classes of regular expressions, and the properties that can be asked for by
name. Names are compared without regard to case, blanks, hyphens and low lines.
-/

namespace LineScopes.Unicode

def digits : CodeSet := categories ["Nd"]

def whiteSpace : CodeSet := binary "White_Space"

def wordChars : CodeSet :=
  (binary "Alphabetic").union (categories ["Mc", "Me", "Mn", "Nd", "Pc"])

def hexDigits : CodeSet := .ofTable "30-39 41-46 61-66"

def ascii : CodeSet := .ofTable "0-7F"

private def graph : CodeSet :=
  (CodeSet.unions [whiteSpace, categories ["Cc", "Cs"], unassigned]).compl

private def punct : CodeSet :=
  (categories ["Pc", "Pd", "Pe", "Pf", "Pi", "Po", "Ps"]).union
    (.ofTable "24 2B 3C-3E 5E 60 7C 7E")

/-- The classes that may also be written in brackets. -/
def bracketClasses : List (String × CodeSet) := [
  ("alnum", (binary "Alphabetic").union digits),
  ("alpha", binary "Alphabetic"),
  ("blank", (categories ["Zs"]).union (.singleton 0x09)),
  ("cntrl", categories ["Cc"]),
  ("digit", digits),
  ("graph", graph),
  ("lower", binary "Lowercase"),
  ("print", (graph.union (categories ["Zs"])).diff (categories ["Cc"])),
  ("punct", punct),
  ("space", whiteSpace),
  ("upper", binary "Uppercase"),
  ("xdigit", hexDigits),
  ("ascii", ascii),
  ("word", wordChars)]

/-- A name as it is compared. -/
def plainName (name : String) : String :=
  String.ofList ((name.toList.filter fun c => c ≠ ' ' ∧ c ≠ '-' ∧ c ≠ '_').map Char.toLower)

private def properties : List (String × CodeSet) :=
  let named := assignedCategories ++ categoryGroups ++ scripts ++ binaryProperties ++
    derivedProperties
  [("any", .all), ("assigned", unassigned.compl), ("newline", .singleton 0x0A)] ++ bracketClasses ++
    named.flatMap fun entry => entry.names.map fun name => (plainName name, entry.set)

def property? (name : String) : Option CodeSet :=
  if name.toList.any fun c => 0x80 ≤ c.toNat then none else properties.lookup (plainName name)

/-- The set with every character that differs only in case from one of its own. -/
def CodeSet.closeCase (set : CodeSet) : CodeSet :=
  let classes := caseClasses.filter fun codes => codes.any set.containsCode
  set.union (.ofRanges (classes.flatten.map fun code => (code, code)))

end LineScopes.Unicode
