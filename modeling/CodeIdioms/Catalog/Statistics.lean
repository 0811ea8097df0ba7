import CodeIdioms.Idiom

/-! # Catalog statistics

Counts of idioms, in all, by category and by difficulty.  Counts are 64-bit words; a category or
level without idioms has no count. -/

namespace CodeIdioms

/-- Counts of idioms. -/
structure Statistics where
  total : UInt64 := 0
  byCategory : Category → Option UInt64 := fun _ => none
  byDifficulty : Difficulty → Option UInt64 := fun _ => none

/-- Counts with one of them raised by one. -/
def raise {κ : Type} [DecidableEq κ] (counts : κ → Option UInt64) (key : κ) : κ → Option UInt64 :=
  fun k => if k = key then some ((counts k).getD 0 + 1) else counts k

namespace Statistics

/-- The statistics with one idiom more. -/
def add (s : Statistics) (p : Idiom) : Statistics :=
  { total := s.total + 1, byCategory := raise s.byCategory p.category,
    byDifficulty := raise s.byDifficulty p.difficulty }

/-- The statistics of a list of idioms. -/
def ofIdioms (ps : List Idiom) : Statistics := ps.foldl add {}

/-- The number of idioms of a category. -/
def categoryCount (s : Statistics) (c : Category) : UInt64 := (s.byCategory c).getD 0

/-- The number of idioms of a level. -/
def difficultyCount (s : Statistics) (d : Difficulty) : UInt64 := (s.byDifficulty d).getD 0

/-- Whether both groups of counts add up to the total. -/
def isConsistent (s : Statistics) : Bool :=
  (Category.all.filterMap s.byCategory).foldl (· + ·) 0 == s.total
    && (Difficulty.all.filterMap s.byDifficulty).foldl (· + ·) 0 == s.total

/-- The counts by category that are present, in order. -/
def categories (s : Statistics) : List (Category × UInt64) :=
  Category.all.filterMap fun c => (s.byCategory c).map fun n => (c, n)

/-- The counts by level that are present, in order. -/
def difficulties (s : Statistics) : List (Difficulty × UInt64) :=
  Difficulty.all.filterMap fun d => (s.byDifficulty d).map fun n => (d, n)

open Document in
/-- The codec of statistics. -/
def codec : Codec Statistics :=
  let count := Codec.word "usize"
  Codec.record "struct CatalogStats"
    (.cons (required "total" count) <|
     .cons (required "byCategory" (Codec.table (Vocabulary.namedValues Category) count)) <|
     .cons (required "byDifficulty" (Codec.table (Vocabulary.namedValues Difficulty) count)) .nil)
    (fun (a, b, c, _) => ⟨a, b, c⟩)
    fun s => (s.total, s.byCategory, s.byDifficulty, ())

end Statistics

end CodeIdioms
