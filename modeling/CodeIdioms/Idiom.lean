import CodeIdioms.Narrative.Basic
import CodeIdioms.Vocabulary.Category
import CodeIdioms.Vocabulary.Difficulty

/-! # Idioms

An idiom couples a detection rule with teaching material: an example before and after, a
narrative, and lists of objectives, mistakes and practices. -/

namespace CodeIdioms

open Document in
/-- A catalogued idiom. -/
structure Idiom where
  id : String
  name : String
  category : Category
  difficulty : Difficulty
  rule : String
  confidence : Float
  beforeExample : String := ""
  afterExample : String := ""
  narrative : Narrative := {}
  glyphs : List String := []
  tags : StringSet := SortedMap.empty
  related : List String := []
  objectives : List String := []
  mistakes : List String := []
  practices : List String := []
deriving Repr

namespace Idiom

/-- Whether an idiom bears a tag. -/
def hasTag (p : Idiom) (tag : String) : Bool := p.tags.contains tag

/-- The example after, as a suggestion for what to write instead, unless it is blank. -/
def suggestion (p : Idiom) : Option String :=
  if Text.isBlankText p.afterExample then none else some p.afterExample

/-- Whether the confidence lies between 0 and 1; a NaN does not. -/
def hasValidConfidence (p : Idiom) : Bool := 0.0 ≤ p.confidence && p.confidence ≤ 1.0

open Document in
/-- The codec of idioms. -/
def codec : Codec Idiom :=
  let strings := fun name => defaulting name (Codec.list Codec.string) []
  Codec.record "struct Pattern"
    (.cons (required "id" Codec.string) <| .cons (required "name" Codec.string) <|
     .cons (required "category" Vocabulary.codec) <|
     .cons (required "difficulty" Vocabulary.codec) <|
     .cons (required "detection_rule" Codec.string) <|
     .cons (required "confidence" Codec.float) <|
     .cons (defaulting "before_example" Codec.string "") <|
     .cons (defaulting "after_example" Codec.string "") <|
     .cons (defaulting "narrative" Narrative.codec {}) <|
     .cons (strings "glyphs") <|
     .cons (defaulting "tags" Codec.stringSet SortedMap.empty) <|
     .cons (strings "related_patterns") <| .cons (strings "learning_objectives") <|
     .cons (strings "common_mistakes") <| .cons (strings "best_practices") .nil)
    (fun (id, name, category, difficulty, rule, confidence, before, after, narrative, glyphs, tags,
        related, objectives, mistakes, practices, _) =>
      ⟨id, name, category, difficulty, rule, confidence, before, after, narrative, glyphs, tags,
        related, objectives, mistakes, practices⟩)
    fun p => (p.id, p.name, p.category, p.difficulty, p.rule, p.confidence, p.beforeExample,
      p.afterExample, p.narrative, p.glyphs, p.tags, p.related, p.objectives, p.mistakes,
      p.practices, ())

end Idiom

end CodeIdioms
