import CodeIdioms.Text.Blank
import CodeIdioms.Text.Property.GeneralCategory
import CodeIdioms.Text.Property.Binary

/-! # Quoted texts in messages

A message shows a text between double quotes, with escapes for quotes, backslashes and all
characters that a reader would not see: controls, formats, separators, combining marks and
unassigned code points. -/

namespace CodeIdioms.Text

/-- Digits of a number in lower-case hexadecimal. -/
def hexDigits (n : Nat) : String := String.ofList (Nat.toDigits 16 n)

/-- The set of a general category. -/
def categorySet (name : String) : Ranges := (findNamed? generalCategories name).getD []

/-- The code points that are not shown as they are. -/
def hiddenRanges : Ranges :=
  Ranges.normalize (["cc", "cf", "cn", "co", "zl", "zp", "zs"].flatMap categorySet
    ++ (findNamed? binaryProperties "graphemeextend").getD [])

/-- Whether a character is shown as it is. -/
def isShown (c : Char) : Bool := c == ' ' || !hiddenRanges.hasChar c

/-- A character as it appears inside quotes. -/
def quotedChar (c : Char) : String :=
  match c with
  | '"' => "\\\""
  | '\\' => "\\\\"
  | '\n' => "\\n"
  | '\r' => "\\r"
  | '\t' => "\\t"
  | '\x00' => "\\0"
  | c => if (0x20 ≤ c.toNat && c.toNat < 0x7f) || isShown c then String.singleton c
    else "\\u\x7b" ++ hexDigits c.toNat ++ "\x7d"

/-- A text between double quotes. -/
def quoted (s : String) : String := "\"" ++ String.join (s.toList.map quotedChar) ++ "\""

end CodeIdioms.Text
