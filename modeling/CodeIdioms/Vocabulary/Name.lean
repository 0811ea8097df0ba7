import CodeIdioms.Text.Blank
import CodeIdioms.Document.Codec

/-! # Named values

The categories, levels and concepts of this library are finite types whose values have a written
name and a label.  A user may spell a name in many ways: blanks around it, case, spaces, hyphens
and underscores do not count. -/

namespace CodeIdioms

open Text

/-- Characters that do not count in a name. -/
def isNameSeparator (c : Char) : Bool := c == '_' || c == '-' || c == ' '

/-- The form of a name that is compared: without blanks around it, separators and ASCII case. -/
def normalizeName (s : String) : String :=
  String.ofList (((trimChars s.toList).filter fun c => !isNameSeparator c).map Char.toLower)

/-- A finite type whose values have names. -/
class Vocabulary (α : Type) where
  /-- All values, in order. -/
  all : List α
  /-- The written name. -/
  name : α → String
  /-- The name for readers. -/
  label : α → String

namespace Vocabulary

variable {α : Type} [Vocabulary α]

/-- The value that a spelling names. -/
def ofSpelling? (s : String) : Option α :=
  (all : List α).find? fun x => normalizeName (name x) == normalizeName s

/-- The value whose name is the compared form of a spelling. -/
def ofPlainSpelling? (s : String) : Option α :=
  (all : List α).find? fun x => name x == normalizeName s

/-- All values with their names. -/
def namedValues (α : Type) [Vocabulary α] : List (String × α) := (all : List α).map fun x => (name x, x)

/-- The codec that writes values by name. -/
def codec : Document.Codec α := Document.Codec.named (namedValues α) name

end Vocabulary

/-- A spelling that names no value. -/
inductive NameError where
  | unknownCategory (given : String)
  | unknownDifficulty (given : String)
  | unknownConcept (given : String)
deriving DecidableEq, Repr

/-- The text of an unknown name. -/
def NameError.message : NameError → String
  | unknownCategory s => "unknown pattern category '" ++ s ++ "'"
  | unknownDifficulty s =>
    "unknown difficulty '" ++ s ++ "' (expected beginner, intermediate or advanced)"
  | unknownConcept s => "unknown semantic category '" ++ s ++ "'"

end CodeIdioms
