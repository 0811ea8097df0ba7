import CodeIdioms.Vocabulary.Name

/-! # Concepts

What a glyph stands for, apart from any syntax.  The legend of glyphs shows the concepts in an
order of its own. -/

namespace CodeIdioms

/-- The concept that a glyph denotes. -/
inductive Concept where
  | transformation
  | safety
  | flow
  | shape
  | state
  | data
deriving DecidableEq, Repr, Inhabited

namespace Concept

/-- All concepts, in order. -/
def all : List Concept := [.transformation, .safety, .flow, .shape, .state, .data]

/-- The order of the legend. -/
def legendOrder : List Concept := [.safety, .transformation, .flow, .shape, .state, .data]

/-- The written name. -/
def name : Concept → String
  | transformation => "transformation"
  | safety => "safety"
  | flow => "flow"
  | shape => "structure"
  | state => "state"
  | data => "data"

/-- The name for readers. -/
def label : Concept → String
  | transformation => "Transformation"
  | safety => "Safety"
  | flow => "Flow"
  | shape => "Structure"
  | state => "State"
  | data => "Data"

instance : Vocabulary Concept := ⟨all, name, label⟩

/-- Every concept is listed. -/
theorem mem_all (c : Concept) : c ∈ all := by cases c <;> decide

/-- The concept that a spelling names. -/
def ofSpelling (s : String) : Except NameError Concept :=
  match Vocabulary.ofPlainSpelling? s with
  | some c => .ok c
  | none => .error (.unknownConcept s)

end Concept

end CodeIdioms
