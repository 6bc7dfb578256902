import LineScopes.Unicode.Binary

/-!
# Quoted text

A text between double quotes in which every character can be seen: quotes
and backslashes are escaped, and what has no shape of its own is written as
its code point in hexadecimal.
-/

namespace LineScopes.Text

private def invisible : Unicode.CodeSet :=
  (Unicode.unassigned.union (Unicode.categories ["Cc", "Cf", "Cs", "Co", "Zl", "Zp", "Zs"])).diff
    (.singleton 0x20)

/-- Characters that are not shown, or that have no place in a text of their own. -/
private def ignorable : Unicode.CodeSet := Unicode.binary "Default_Ignorable_Code_Point"

private def combining : Unicode.CodeSet := Unicode.binary "Grapheme_Extend"

def hex (n : Nat) : String := String.ofList (Nat.toDigits 16 n)

def quoteChar (c : Char) : String :=
  match c with
  | '\x00' => "\\0"
  | '\t' => "\\t"
  | '\r' => "\\r"
  | '\n' => "\\n"
  | '"' => "\\\""
  | '\\' => "\\\\"
  | c =>
    if combining.contains c ∨ invisible.contains c ∨ ignorable.contains c then
      "\\u\x7b" ++ hex c.toNat ++ "\x7d"
    else c.toString

def quoted (text : String) : String := "\"" ++ String.join (text.toList.map quoteChar) ++ "\""

end LineScopes.Text
