import CodeIdioms.Decimal.Written

/-! # Document values

The values that a JSON document writes, and their two layouts: on one line, and indented by two
spaces a level.  Objects keep their members in order. -/

namespace CodeIdioms.Document

/-- Numbers, by the form in which they are written. -/
inductive Number where
  | natural (n : UInt64)
  | negative (magnitude : Nat)
  | float (x : Float)
deriving Repr

/-- The text of a number. -/
def Number.text : Number → String
  | natural n => toString n.toNat
  | negative m => "-" ++ toString m
  | float x => Decimal.documentText x

/-- Document values. -/
inductive Value where
  | null
  | bool (b : Bool)
  | number (n : Number)
  | string (s : String)
  | array (items : List Value)
  | object (members : List (String × Value))
deriving Inhabited, Repr

/-! ### Written strings -/

/-- Four digits of a number in hexadecimal. -/
def fourHex (n : Nat) : String :=
  let ds := Nat.toDigits 16 n
  String.ofList (List.replicate (4 - ds.length) '0' ++ ds)

/-- A character of a written string: quotes, backslashes and controls are escaped. -/
def escapedChar (c : Char) : String :=
  match c with
  | '"' => "\\\""
  | '\\' => "\\\\"
  | '\n' => "\\n"
  | '\r' => "\\r"
  | '\t' => "\\t"
  | '\x08' => "\\b"
  | '\x0c' => "\\f"
  | c => if c.toNat < 0x20 then "\\u" ++ fourHex c.toNat else String.singleton c

/-- A written string. -/
def stringText (s : String) : String := "\"" ++ String.join (s.toList.map escapedChar) ++ "\""

/-! ### Layouts -/

namespace Value

mutual

/-- A value on one line. -/
def compact : Value → String
  | null => "null"
  | bool b => if b then "true" else "false"
  | number n => n.text
  | string s => stringText s
  | array items => "[" ++ ",".intercalate (compactItems items) ++ "]"
  | object members => "\x7b" ++ ",".intercalate (compactMembers members) ++ "\x7d"

/-- The items of an array, each on one line. -/
def compactItems : List Value → List String
  | [] => []
  | v :: vs => v.compact :: compactItems vs

/-- The members of an object, each on one line. -/
def compactMembers : List (String × Value) → List String
  | [] => []
  | (k, v) :: ms => (stringText k ++ ":" ++ v.compact) :: compactMembers ms

end

/-- A line break followed by the indentation of a level. -/
def lineBreak (level : Nat) : String := "\n" ++ String.ofList (List.replicate (2 * level) ' ')

/-- Parts on lines of their own between an opening and a closing mark. -/
def block (level : Nat) (opening closing : String) (parts : List String) : String :=
  if parts.isEmpty then opening ++ closing
  else opening ++ lineBreak (level + 1) ++ ("," ++ lineBreak (level + 1)).intercalate parts
    ++ lineBreak level ++ closing

mutual

/-- A value with its parts on lines of their own, at a level of indentation. -/
def indented (level : Nat) : Value → String
  | null => "null"
  | bool b => if b then "true" else "false"
  | number n => n.text
  | string s => stringText s
  | array items => block level "[" "]" (indentedItems (level + 1) items)
  | object members => block level "\x7b" "\x7d" (indentedMembers (level + 1) members)

/-- The items of an array at a level of indentation. -/
def indentedItems (level : Nat) : List Value → List String
  | [] => []
  | v :: vs => v.indented level :: indentedItems level vs

/-- The members of an object at a level of indentation. -/
def indentedMembers (level : Nat) : List (String × Value) → List String
  | [] => []
  | (k, v) :: ms => (stringText k ++ ": " ++ v.indented level) :: indentedMembers level ms

end

/-- A value with its parts on lines of their own. -/
def pretty (v : Value) : String := v.indented 0

/-! ### Shorthands -/

/-- A natural number. -/
def ofNat (n : Nat) : Value := number (.natural n.toUInt64)

/-- A double. -/
def ofFloat (x : Float) : Value := number (.float x)

/-- An array of strings. -/
def ofStrings (xs : List String) : Value := array (xs.map string)

/-- The member of an object with a key, the last one if there are several. -/
def member? (key : String) : Value → Option Value
  | object members => (members.reverse.find? (·.1 == key)).map (·.2)
  | _ => none

end Value

end CodeIdioms.Document
