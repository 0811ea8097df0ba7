import CodeIdioms.Idiom
import CodeIdioms.Span
import CodeIdioms.Text.Cut

/-! # Findings

A finding is an occurrence of an idiom in a source text.  A record is the part of a finding that is
written to documents. -/

namespace CodeIdioms

/-- An occurrence of an idiom. -/
structure Finding where
  idiom : Idiom
  text : String
  span : Span
  confidence : Float
  suggestion : Option String
deriving Repr

/-- The text of a span, if the span begins and ends between characters. -/
def Span.text? (s : Span) (source : String) : Option String := do
  let (_, rest) ← Text.cut source.toList s.startOffset.toNat
  let (middle, _) ← Text.cut rest (s.endOffset.toNat - s.startOffset.toNat)
  return String.ofList middle

/-- The finding of an idiom at a range of offsets, if the range, brought into the text, begins and
ends between characters. -/
def Finding.at? (p : Idiom) (source : String) (start stop : UInt64) : Option Finding :=
  let span := Span.locate source start stop
  (span.text? source).map fun text =>
    { idiom := p, text, span, confidence := p.confidence, suggestion := p.suggestion }

/-- The written form of a finding. -/
structure Record where
  idiomId : String
  text : String
  startLine : UInt64
  endLine : UInt64
  confidence : Float
  suggestion : Option String
deriving Repr

/-- The record of a finding. -/
def Finding.record (f : Finding) : Record :=
  { idiomId := f.idiom.id, text := f.text, startLine := f.span.startLine,
    endLine := f.span.endLine, confidence := f.confidence, suggestion := f.suggestion }

open Document in
/-- The codec of records; a suggestion that is missing is left out. -/
def Record.codec : Codec Record :=
  Codec.record "struct MatchRecord"
    (.cons (required "patternId" Codec.string) <| .cons (required "matchedText" Codec.string) <|
     .cons (required "startLine" (Codec.word "usize")) <|
     .cons (required "endLine" (Codec.word "usize")) <|
     .cons (required "confidence" Codec.float) <|
     .cons { name := "suggestedTransformation", codec := Codec.option Codec.string,
             fallback := some none, omits := Option.isNone } .nil)
    (fun (a, b, c, d, e, f, _) => ⟨a, b, c, d, e, f⟩)
    fun r => (r.idiomId, r.text, r.startLine, r.endLine, r.confidence, r.suggestion, ())

end CodeIdioms
