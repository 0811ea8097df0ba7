import CodeIdioms.Document.Reader
import CodeIdioms.Text.Quoted

/-! # What can be wrong with a document

A document is refused because its text is not JSON (a fault), or because what has been read so far
does not have the wanted shape (a mismatch).  Both are met in reading order, so a mismatch hides
every fault after it. -/

namespace CodeIdioms.Document

/-- What a reader found in place of what it wanted. -/
inductive Found where
  | null
  | bool (b : Bool)
  | number (n : Number)
  | string (s : String)
  | sequence
  | map
deriving Repr

/-- A found value as messages name it. -/
def Found.text : Found → String
  | null => "null"
  | bool b => "boolean `" ++ (if b then "true" else "false") ++ "`"
  | number (.float x) => "floating point `" ++ Decimal.documentText x ++ "`"
  | number n => "integer `" ++ n.text ++ "`"
  | string s => "string " ++ CodeIdioms.Text.quoted s
  | sequence => "sequence"
  | map => "map"

/-- Ways in which a value does not have the wanted shape. -/
inductive Mismatch where
  | wrongType (found : Found) (wanted : String)
  | wrongValue (found : Found) (wanted : String)
  | wrongLength (length : Nat) (wanted : String)
  | missingField (name : String)
  | duplicateField (name : String)
  | unknownVariant (given : String) (known : List String)
deriving Repr

/-- A name in back quotes. -/
def ticked (s : String) : String := "`" ++ s ++ "`"

/-- The alternatives that a name could have been. -/
def alternatives : List String → String
  | [] => "there are no variants"
  | [a] => "expected " ++ ticked a
  | [a, b] => "expected " ++ ticked a ++ " or " ++ ticked b
  | names => "expected one of " ++ ", ".intercalate (names.map ticked)

/-- The text of a mismatch. -/
def Mismatch.message : Mismatch → String
  | wrongType found wanted => "invalid type: " ++ found.text ++ ", expected " ++ wanted
  | wrongValue found wanted => "invalid value: " ++ found.text ++ ", expected " ++ wanted
  | wrongLength n wanted => "invalid length " ++ toString n ++ ", expected " ++ wanted
  | missingField name => "missing field " ++ ticked name
  | duplicateField name => "duplicate field " ++ ticked name
  | unknownVariant given known => "unknown variant " ++ ticked given ++ ", " ++ alternatives known

/-- Why a document is refused. -/
inductive Problem where
  | fault (f : Fault)
  | mismatch (m : Mismatch)
deriving Repr

/-- The text of a fault. -/
def Fault.message : Fault → String
  | malformed => "malformed document"
  | cutShort => "unexpected end of document"

/-- The text of a problem. -/
def Problem.message : Problem → String
  | fault f => f.message
  | mismatch m => m.message

/-- The problem that a value of another kind poses. -/
def Tree.unexpected (wanted : String) : Tree → Problem
  | null => .mismatch (.wrongType .null wanted)
  | bool b => .mismatch (.wrongType (.bool b) wanted)
  | number (some n) => .mismatch (.wrongType (.number n) wanted)
  | number none => .fault .malformed
  | string (some s) => .mismatch (.wrongType (.string s) wanted)
  | string none => .fault .malformed
  | array _ _ => .mismatch (.wrongType .sequence wanted)
  | object _ _ => .mismatch (.wrongType .map wanted)
  | broken b => .fault b.read

end CodeIdioms.Document
