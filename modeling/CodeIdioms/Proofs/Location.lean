import CodeIdioms.Detection.Finding

/-! # Places of findings

A span brings a range of offsets into its text.  A range that begins and ends between characters
of the text stays what it is, and the text of its span is the text of the range; so there is a
finding at every such range, and it reports the range faithfully (`exists_at?_of_isRange`). -/

namespace CodeIdioms

namespace Span

theorem length_bytesOf (source : String) : (bytesOf source).length = source.utf8ByteSize := by
  unfold bytesOf
  rw [Array.length_toList]
  rfl

theorem toNat_startOffset_locate (source : String) (start stop : UInt64) :
    (locate source start stop).startOffset.toNat = min start.toNat source.utf8ByteSize := by
  have hw := start.toNat_lt
  unfold locate
  dsimp only
  rw [length_bytesOf, Nat.toUInt64_eq, UInt64.toNat_ofNat_of_lt' (by show _ < 2 ^ 64; omega)]

theorem toNat_endOffset_locate (source : String) (start stop : UInt64) :
    (locate source start stop).endOffset.toNat
      = max (min start.toNat source.utf8ByteSize) (min stop.toNat source.utf8ByteSize) := by
  have hw := start.toNat_lt
  have hw' := stop.toNat_lt
  unfold locate
  dsimp only
  rw [length_bytesOf, Nat.toUInt64_eq, UInt64.toNat_ofNat_of_lt' (by show _ < 2 ^ 64; omega)]

/-- The offsets of a range that lies in the text are not moved. -/
theorem offsets_locate {source : String} {start stop : UInt64} (h : start.toNat ≤ stop.toNat)
    (hstop : stop.toNat ≤ source.utf8ByteSize) :
    (locate source start stop).startOffset = start ∧ (locate source start stop).endOffset = stop := by
  constructor
  · rw [← UInt64.toNat_inj, toNat_startOffset_locate]
    omega
  · rw [← UInt64.toNat_inj, toNat_endOffset_locate]
    omega

theorem bytesOf_append (a b : String) : bytesOf (a ++ b) = bytesOf a ++ bytesOf b := by
  unfold bytesOf
  simp

theorem lineEnds_append (bytes bytes' : List UInt8) :
    lineEnds (bytes ++ bytes') = lineEnds bytes + lineEnds bytes' := List.count_append

/-- What follows a text begins on the line after as many line ends as the text has. -/
theorem toNat_startLine_locate {before rest : String} {start stop : UInt64}
    (hstart : before.utf8ByteSize = start.toNat) (hlt : start.toNat + 1 < UInt64.size) :
    (locate (before ++ rest) start stop).startLine.toNat = 1 + lineEnds (bytesOf before) := by
  have hlength : (bytesOf before).length = start.toNat := (length_bytesOf before).trans hstart
  have htake : (bytesOf (before ++ rest)).take (min start.toNat (bytesOf (before ++ rest)).length)
      = bytesOf before := by
    rw [bytesOf_append, List.length_append, hlength, Nat.min_eq_left (Nat.le_add_right ..),
      List.take_left' hlength]
  have hcount : lineEnds (bytesOf before) ≤ start.toNat := hlength ▸ List.count_le_length
  unfold locate
  dsimp only
  rw [htake, Nat.toUInt64_eq, UInt64.toNat_ofNat_of_lt' (by omega)]

/-- The text of a span that ends no earlier than it begins is what stands between its offsets. -/
theorem text?_append {s : Span} {before middle after : String}
    (hstart : s.startOffset.toNat = before.utf8ByteSize)
    (hend : s.endOffset.toNat = (before ++ middle).utf8ByteSize) :
    s.text? (before ++ middle ++ after) = some middle := by
  have hlength : s.endOffset.toNat - s.startOffset.toNat = middle.utf8ByteSize := by
    rw [hstart, hend, String.utf8ByteSize_append, Nat.add_sub_cancel_left]
  unfold text?
  rw [hlength, hstart, String.append_assoc, Text.cut_append]
  show (Text.cut (middle ++ after).toList middle.utf8ByteSize).bind _ = _
  rw [Text.cut_append]
  exact congrArg some String.ofList_toList

end Span

/-- A finding reports an idiom at a range of a text: it carries the idiom with its confidence and
its suggestion, and the range with its text. -/
structure Finding.Reports (f : Finding) (p : Idiom) (source : String) (start stop : UInt64) :
    Prop where
  idiom : f.idiom = p
  confidence : f.confidence = p.confidence
  suggestion : f.suggestion = p.suggestion
  span : f.span = Span.locate source start stop
  startOffset : f.span.startOffset = start
  endOffset : f.span.endOffset = stop
  text : ∃ before after : String, source = before ++ f.text ++ after ∧
    before.utf8ByteSize = start.toNat ∧ (before ++ f.text).utf8ByteSize = stop.toNat

namespace Finding

theorem eq_of_at? {p : Idiom} {source : String} {start stop : UInt64} {f : Finding}
    (h : at? p source start stop = some f) : f.idiom = p ∧ f.confidence = p.confidence := by
  obtain ⟨text, _, rfl⟩ := Option.map_eq_some_iff.1 h
  exact ⟨rfl, rfl⟩

/-- There is a finding at every range of characters, and it reports the range. -/
theorem exists_at?_of_isRange (p : Idiom) {source : String} {start stop : UInt64}
    (h : Text.IsRange source start.toNat stop.toNat) :
    ∃ f, at? p source start stop = some f ∧ f.Reports p source start stop := by
  obtain ⟨hs, he⟩ := Span.offsets_locate h.le h.stop_valid.le_utf8ByteSize
  obtain ⟨before, middle, after, hsource, hbefore, hmiddle⟩ := h.exists_append
  have htext : (Span.locate source start stop).text? source = some middle := by
    conv => lhs; arg 2; rw [hsource]
    apply Span.text?_append
    · rw [hs, hbefore]
    · rw [he, hmiddle]
  unfold at?
  dsimp only
  rw [htext]
  exact ⟨_, rfl, rfl, rfl, rfl, rfl, hs, he, before, after, hsource, hbefore, hmiddle⟩

end Finding

end CodeIdioms
