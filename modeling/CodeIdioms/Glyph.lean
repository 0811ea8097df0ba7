import CodeIdioms.Document.Record
import CodeIdioms.Vocabulary.Concept

/-! # Glyphs

A glyph is a symbol that annotates code with a concept. -/

namespace CodeIdioms

/-- A symbol with its meaning. -/
structure Glyph where
  symbol : String
  name : String
  meaning : String
  concept : Concept
  usage : String
deriving DecidableEq, Repr

open Document in
/-- The codec of glyphs. -/
def Glyph.codec : Codec Glyph :=
  Codec.record "struct Glyph"
    (.cons (required "symbol" Codec.string) <| .cons (required "name" Codec.string) <|
     .cons (required "meaning" Codec.string) <|
     .cons (required "semantic_category" Vocabulary.codec) <|
     .cons (required "usage_example" Codec.string) .nil)
    (fun (a, b, c, d, e, _) => ⟨a, b, c, d, e⟩)
    fun g => (g.symbol, g.name, g.meaning, g.concept, g.usage, ())

end CodeIdioms
