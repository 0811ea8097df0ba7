import CodeIdioms.Document.Record

/-! # Spans

A span is the place of a piece of source text: its range of byte offsets and the lines on which
the range begins and ends.  Offsets need not fall between characters; a range that is inverted or
lies beyond the end is brought into the text. -/

namespace CodeIdioms

/-- A range of a source text, in bytes from 0 and in lines from 1. -/
structure Span where
  startOffset : UInt64
  endOffset : UInt64
  startLine : UInt64
  endLine : UInt64
deriving DecidableEq, Repr

namespace Span

/-- The byte that ends a line. -/
def newline : UInt8 := 10

/-- The bytes of a text. -/
def bytesOf (source : String) : List UInt8 := source.toUTF8.data.toList

/-- The number of line ends among bytes. -/
def lineEnds (bytes : List UInt8) : Nat := bytes.count newline

/-- The span of a range of offsets, brought into the text.  The line of the end is the line of the
last byte, so a range that ends with a line break ends on the line that the break closes. -/
def locate (source : String) (start stop : UInt64) : Span :=
  let bytes := bytesOf source
  let first := min start.toNat bytes.length
  let last := max first (min stop.toNat bytes.length)
  let lastByte := if last > first then last - 1 else first
  let startLine := 1 + lineEnds (bytes.take first)
  let endLine := startLine + lineEnds ((bytes.drop first).take (lastByte - first))
  { startOffset := first.toUInt64, endOffset := last.toUInt64,
    startLine := startLine.toUInt64, endLine := endLine.toUInt64 }

/-- The number of lines that a span touches. -/
def lineCount (s : Span) : UInt64 := s.endLine - s.startLine + 1

/-- The codec of spans. -/
def codec : Document.Codec Span :=
  let word := Document.Codec.word "usize"
  Document.Codec.record "struct SourceSpan"
    (.cons (Document.required "start_offset" word) <| .cons (Document.required "end_offset" word) <|
     .cons (Document.required "start_line" word) <| .cons (Document.required "end_line" word) .nil)
    (fun (a, b, c, d, _) => ⟨a, b, c, d⟩)
    fun s => (s.startOffset, s.endOffset, s.startLine, s.endLine, ())

end Span

end CodeIdioms
