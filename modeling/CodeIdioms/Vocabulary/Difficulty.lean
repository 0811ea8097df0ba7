import CodeIdioms.Vocabulary.Name

/-! # Difficulties

How much an idiom assumes of its reader. -/

namespace CodeIdioms

/-- The level of an idiom. -/
inductive Difficulty where
  | beginner
  | intermediate
  | advanced
deriving DecidableEq, Repr, Inhabited

namespace Difficulty

/-- All levels, easiest first. -/
def all : List Difficulty := [.beginner, .intermediate, .advanced]

/-- The written name. -/
def name : Difficulty → String
  | beginner => "beginner"
  | intermediate => "intermediate"
  | advanced => "advanced"

/-- The name for readers. -/
def label : Difficulty → String
  | beginner => "Beginner"
  | intermediate => "Intermediate"
  | advanced => "Advanced"

instance : Vocabulary Difficulty := ⟨all, name, label⟩

/-- Every level is listed. -/
theorem mem_all (d : Difficulty) : d ∈ all := by cases d <;> decide

/-- The level that a spelling names. -/
def ofSpelling (s : String) : Except NameError Difficulty :=
  match Vocabulary.ofPlainSpelling? s with
  | some d => .ok d
  | none => .error (.unknownDifficulty s)

end Difficulty

end CodeIdioms
