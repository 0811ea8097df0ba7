import CodeIdioms.Proofs.Location
import CodeIdioms.Proofs.Span.CheckedWord
import Mathlib.Data.List.Basic

/-! # What spans tell

A span marks a range of offsets in a text (`Marks`): its offsets are the range brought into the text,
and its lines are those of the first and of the last byte between them.  These four equations determine
a span (`Marks.unique`), and `locate` gives the span that satisfies them (`marks_locate`).

The rest follows: no step of locating a span leaves the words or the text (`locate?_eq_some`), a span
located again stays what it is, and a text put in front of the source moves spans by its bytes and its
line ends and changes nothing else (`locate_marks_and_moves`). -/

namespace CodeIdioms.Span

/-- The line of the byte at an offset. -/
def lineAt (source : String) (offset : Nat) : Nat := 1 + lineEnds ((bytesOf source).take offset)

/-- A span marks a range of offsets. -/
structure Marks (s : Span) (source : String) (start stop : UInt64) : Prop where
  startOffset : s.startOffset.toNat = min start.toNat source.utf8ByteSize
  endOffset : s.endOffset.toNat = max s.startOffset.toNat (min stop.toNat source.utf8ByteSize)
  startLine : s.startLine.toNat = lineAt source s.startOffset.toNat
  endLine : s.endLine.toNat = if s.startOffset < s.endOffset
    then lineAt source (s.endOffset.toNat - 1) else s.startLine.toNat

/-- A span is another one, moved by some bytes and lines. -/
structure IsMoved (s t : Span) (bytes lines : Nat) : Prop where
  startOffset : s.startOffset.toNat = bytes + t.startOffset.toNat
  endOffset : s.endOffset.toNat = bytes + t.endOffset.toNat
  startLine : s.startLine.toNat = lines + t.startLine.toNat
  endLine : s.endLine.toNat = lines + t.endLine.toNat

/-- The offset of the last byte of a range, or of its beginning if it is empty. -/
def lastByte? (first last : UInt64) : Option UInt64 :=
  if first < last then Word.sub? last 1 else some first

/-- The span of a range, where a step that leaves the words or the text ends without a result. -/
def locate? (source : String) (start stop : UInt64) : Option Span := do
  let bytes := bytesOf source
  let length ← Word.ofNat? bytes.length
  let first := min start length
  let last ← Word.clamp? stop first length
  let startLine ← Word.add? 1 (← Word.ofNat? (lineEnds (← Word.slice? bytes 0 first)))
  let lastByte ← lastByte? first last
  let endLine ← Word.add? startLine (← Word.ofNat? (lineEnds (← Word.slice? bytes first lastByte)))
  return { startOffset := first, endOffset := last, startLine, endLine }

/-- The number of lines that a span touches, where a step that leaves the words ends without a
result. -/
def lineCount? (s : Span) : Option UInt64 := do
  Word.add? (← Word.sub? s.endLine s.startLine) 1

/-! ### Lines -/

section
variable (source : String)

theorem one_le_lineAt (n : Nat) : 1 ≤ lineAt source n := Nat.le_add_right ..

theorem lineAt_add (m n : Nat) :
    lineAt source (m + n) = lineAt source m + lineEnds (((bytesOf source).drop m).take n) := by
  unfold lineAt
  rw [List.take_add, lineEnds_append, Nat.add_assoc]

theorem lineAt_le {m n : Nat} (h : m ≤ n) : lineAt source m ≤ lineAt source n := by
  obtain ⟨k, rfl⟩ := Nat.exists_eq_add_of_le h
  rw [lineAt_add]
  exact Nat.le_add_right ..

theorem lineAt_le_all (n : Nat) : lineAt source n ≤ 1 + lineEnds (bytesOf source) := by
  unfold lineAt lineEnds
  exact Nat.add_le_add_left ((List.take_sublist n _).count_le _) 1

theorem lineAt_le_length (n : Nat) : lineAt source n ≤ 1 + source.utf8ByteSize :=
  Nat.le_trans (lineAt_le_all source n)
    (Nat.add_le_add_left (length_bytesOf source ▸ List.count_le_length) 1)

/-- A text in front moves the lines by its line ends. -/
theorem lineAt_append (before : String) (n : Nat) :
    lineAt (before ++ source) (before.utf8ByteSize + n)
      = lineEnds (bytesOf before) + lineAt source n := by
  unfold lineAt
  rw [bytesOf_append, ← length_bytesOf before, List.take_length_add_append, lineEnds_append]
  omega

end

/-! ### The span of a range -/

theorem exists_lastByte? (first last : UInt64) : ∃ w, lastByte? first last = some w ∧
    w.toNat = if first < last then last.toNat - 1 else first.toNat := by
  unfold lastByte?
  split
  · rename_i hlt
    have hpos : last.toNat = 1 + (last.toNat - 1) := by
      have := UInt64.lt_iff_toNat_lt.1 hlt
      omega
    have hw := last.toNat_lt
    obtain ⟨w, -, h⟩ := Word.exists_ofNat? (n := last.toNat - 1) (by omega)
    exact ⟨w, Word.sub?_eq_some_iff.2 (by rw [h]; exact hpos), h⟩
  · exact ⟨first, rfl, rfl⟩

section
variable {s t : Span} {source : String} {start stop : UInt64}

theorem Marks.unique (hs : s.Marks source start stop) (ht : t.Marks source start stop) : s = t := by
  have h₁ : s.startOffset = t.startOffset :=
    UInt64.toNat_inj.1 (hs.startOffset.trans ht.startOffset.symm)
  have h₂ : s.endOffset = t.endOffset := UInt64.toNat_inj.1 (by rw [hs.endOffset, ht.endOffset, h₁])
  have h₃ : s.startLine = t.startLine := UInt64.toNat_inj.1 (by rw [hs.startLine, ht.startLine, h₁])
  have h₄ : s.endLine = t.endLine := UInt64.toNat_inj.1 (by rw [hs.endLine, ht.endLine, h₁, h₂, h₃])
  obtain ⟨a, b, c, d⟩ := s
  cases h₁; cases h₂; cases h₃; cases h₄
  rfl

theorem Marks.startOffset_le (h : s.Marks source start stop) :
    s.startOffset.toNat ≤ s.endOffset.toNat := by
  rw [h.endOffset]
  exact Nat.le_max_left ..

theorem Marks.endOffset_le (h : s.Marks source start stop) :
    s.endOffset.toNat ≤ source.utf8ByteSize := by
  have := h.startOffset
  rw [h.endOffset]
  omega

/-- The line of the end is that of the start, or a later one of the source. -/
theorem Marks.startLine_le (h : s.Marks source start stop) :
    s.startLine.toNat ≤ s.endLine.toNat := by
  rw [h.endLine]
  split
  · rename_i hlt
    rw [h.startLine]
    exact lineAt_le source (Nat.le_sub_one_of_lt (UInt64.lt_iff_toNat_lt.1 hlt))
  · exact Nat.le_refl _

theorem Marks.endLine_le (h : s.Marks source start stop) :
    s.endLine.toNat ≤ 1 + lineEnds (bytesOf source) := by
  rw [h.endLine]
  split
  · exact lineAt_le_all ..
  · rw [h.startLine]
    exact lineAt_le_all ..

/-- A marked span marks itself. -/
theorem Marks.self (h : s.Marks source start stop) :
    s.Marks source s.startOffset s.endOffset where
  startOffset := (Nat.min_eq_left (Nat.le_trans h.startOffset_le h.endOffset_le)).symm
  endOffset := by
    rw [Nat.min_eq_left h.endOffset_le, Nat.max_eq_right h.startOffset_le]
  startLine := h.startLine
  endLine := h.endLine

theorem locate_eq (source : String) (start stop : UInt64) :
    let first := min start.toNat source.utf8ByteSize
    let last := max first (min stop.toNat source.utf8ByteSize)
    locate source start stop =
      { startOffset := first.toUInt64, endOffset := last.toUInt64
        startLine := (lineAt source first).toUInt64
        endLine := (lineAt source (if first < last then last - 1 else first)).toUInt64 } := by
  intro first last
  have hle : first ≤ if first < last then last - 1 else first := by
    split <;> omega
  have hlast : lineAt source (if first < last then last - 1 else first)
      = 1 + lineEnds ((bytesOf source).take first)
        + lineEnds (((bytesOf source).drop first).take
          ((if first < last then last - 1 else first) - first)) := by
    conv => lhs; rw [← Nat.add_sub_cancel' hle, lineAt_add]
    rfl
  unfold locate
  simp only [length_bytesOf]
  rw [hlast]
  rfl

variable (h : source.utf8ByteSize < 2 ^ 63)
include h

theorem toNat_lineAt (n : Nat) : (lineAt source n).toUInt64.toNat = lineAt source n := by
  have := lineAt_le_length source n
  rw [Nat.toUInt64_eq, UInt64.toNat_ofNat_of_lt' (by show _ < 2 ^ 64; omega)]

theorem marks_locate (start stop : UInt64) : (locate source start stop).Marks source start stop := by
  have hstart := toNat_startOffset_locate source start stop
  have hend := toNat_endOffset_locate source start stop
  have heq := locate_eq source start stop
  have hstartLine : (locate source start stop).startLine.toNat
      = lineAt source (locate source start stop).startOffset.toNat := by
    rw [hstart, heq]
    exact toNat_lineAt h _
  refine ⟨hstart, by rw [hend, hstart], hstartLine, ?_⟩
  have hendLine : (locate source start stop).endLine.toNat = lineAt source
      (if (locate source start stop).startOffset.toNat < (locate source start stop).endOffset.toNat
        then (locate source start stop).endOffset.toNat - 1
        else (locate source start stop).startOffset.toNat) := by
    rw [hstart, hend, heq]
    exact toNat_lineAt h _
  rw [hendLine, hstartLine]
  simp only [UInt64.lt_iff_toNat_lt]
  split <;> rfl

theorem exists_lineEnds {bytes : List UInt8} (hbytes : bytes.length ≤ source.utf8ByteSize) :
    ∃ w, Word.ofNat? (lineEnds bytes) = some w ∧ w.toNat = lineEnds bytes :=
  Word.exists_ofNat? (Nat.lt_of_le_of_lt (Nat.le_trans List.count_le_length hbytes) (by omega))

/-- No step of locating a span leaves the words or the text. -/
theorem locate?_eq_some (start stop : UInt64) :
    locate? source start stop = some (locate source start stop) := by
  have hm := marks_locate h start stop
  generalize locate source start stop = s at hm ⊢
  have hle := hm.startOffset_le
  have hsize := hm.endOffset_le
  have hbytes := length_bytesOf source
  obtain ⟨length, hlength, hlen⟩ : ∃ w, Word.ofNat? (bytesOf source).length = some w ∧
      w.toNat = (bytesOf source).length := Word.exists_ofNat? (by omega)
  have hfirst : min start length = s.startOffset := by
    rw [← UInt64.toNat_inj, hm.startOffset, ← hbytes, ← hlen]
    simp only [min, UInt64.le_iff_toNat_le]
    split <;> omega
  have hlast : Word.clamp? stop s.startOffset length = some s.endOffset := by
    rw [Word.clamp?_eq_some_iff (UInt64.le_iff_toNat_le.2 (by omega)), hlen, hbytes]
    exact hm.endOffset
  have hbefore : Word.slice? (bytesOf source) 0 s.startOffset
      = some ((bytesOf source).take s.startOffset.toNat) :=
    Word.slice?_eq_some (Nat.zero_le _) (by omega)
  obtain ⟨above, habove, hlines⟩ := exists_lineEnds h
    (hbytes ▸ List.length_take_le' s.startOffset.toNat (bytesOf source))
  have hstartLine : Word.add? 1 above = some s.startLine :=
    Word.add?_eq_some_iff.2 (by rw [hm.startLine, hlines]; rfl)
  obtain ⟨lastByte, hlastByte, hbyte⟩ := exists_lastByte? s.startOffset s.endOffset
  have hrange : s.startOffset.toNat ≤ lastByte.toNat ∧ lastByte.toNat ≤ (bytesOf source).length := by
    rw [hbyte]
    split
    · rename_i hlt
      have := UInt64.lt_iff_toNat_lt.1 hlt
      omega
    · omega
  have hwithin := Word.slice?_eq_some hrange.1 hrange.2
  rw [List.drop_take] at hwithin
  obtain ⟨inner, hinner, hlines'⟩ := exists_lineEnds h
    (hbytes ▸ ((List.take_sublist (lastByte.toNat - s.startOffset.toNat) _).trans
      (List.drop_sublist s.startOffset.toNat (bytesOf source))).length_le)
  have hendLine : Word.add? s.startLine inner = some s.endLine := by
    rw [Word.add?_eq_some_iff, hlines', hm.startLine, ← lineAt_add, Nat.add_sub_cancel' hrange.1,
      hbyte, hm.endLine, hm.startLine]
    split <;> rfl
  unfold locate?
  simp only [hlength, hfirst, hlast, hbefore, habove, hstartLine, hlastByte, hwithin, hinner,
    hendLine, Option.bind_eq_bind, Option.bind_some, Option.pure_def]

/-- A text in front of a source moves its spans. -/
theorem isMoved_locate {before : String} {start stop start' stop' : UInt64}
    (hboth : before.utf8ByteSize + source.utf8ByteSize < 2 ^ 63)
    (hstart : start.toNat ≤ source.utf8ByteSize) (hstop : stop.toNat ≤ source.utf8ByteSize)
    (hstart' : start'.toNat = before.utf8ByteSize + start.toNat)
    (hstop' : stop'.toNat = before.utf8ByteSize + stop.toNat) :
    (locate (before ++ source) start' stop').IsMoved (locate source start stop)
      before.utf8ByteSize (lineEnds (bytesOf before)) := by
  have hm := marks_locate h start stop
  have hsize : (before ++ source).utf8ByteSize < 2 ^ 63 := by
    rw [String.utf8ByteSize_append]
    exact hboth
  have hm' := marks_locate hsize start' stop'
  generalize locate source start stop = s at hm ⊢
  generalize locate (before ++ source) start' stop' = t at hm' ⊢
  have h₁ : t.startOffset.toNat = before.utf8ByteSize + s.startOffset.toNat := by
    rw [hm'.startOffset, hm.startOffset, String.utf8ByteSize_append]
    omega
  have h₂ : t.endOffset.toNat = before.utf8ByteSize + s.endOffset.toNat := by
    rw [hm'.endOffset, hm.endOffset, h₁, String.utf8ByteSize_append]
    omega
  have h₃ : t.startLine.toNat = lineEnds (bytesOf before) + s.startLine.toNat := by
    rw [hm'.startLine, hm.startLine, h₁, lineAt_append]
  refine ⟨h₁, h₂, h₃, ?_⟩
  rw [hm'.endLine, hm.endLine]
  simp only [UInt64.lt_iff_toNat_lt, h₁, h₂, Nat.add_lt_add_iff_left]
  split
  · rename_i hlt
    rw [Nat.add_sub_assoc (by omega), lineAt_append]
  · exact h₃

/-- The number of lines of a located span is a word, and the number of lines from its first to its
last one. -/
theorem lineCount?_locate (start stop : UInt64) :
    lineCount? (locate source start stop) = some (locate source start stop).lineCount ∧
      (locate source start stop).lineCount.toNat
        = (locate source start stop).endLine.toNat - (locate source start stop).startLine.toNat + 1 := by
  have hm := marks_locate h start stop
  generalize locate source start stop = s at hm ⊢
  have hlines := hm.endLine_le
  have hcount : lineEnds (bytesOf source) ≤ source.utf8ByteSize :=
    length_bytesOf source ▸ List.count_le_length
  have hsub : (s.endLine - s.startLine).toNat = s.endLine.toNat - s.startLine.toNat :=
    UInt64.toNat_sub_of_le _ _ (UInt64.le_iff_toNat_le.2 hm.startLine_le)
  have hadd : s.lineCount.toNat = (s.endLine - s.startLine).toNat + 1 := by
    unfold lineCount
    rw [UInt64.toNat_add, hsub]
    exact Nat.mod_eq_of_lt (by show _ + 1 < 2 ^ 64; omega)
  refine ⟨?_, by rw [hadd, hsub]⟩
  have hdifference : Word.sub? s.endLine s.startLine = some (s.endLine - s.startLine) :=
    Word.sub?_eq_some_iff.2 (by rw [hsub, Nat.add_sub_cancel' hm.startLine_le])
  unfold lineCount?
  rw [hdifference]
  exact Word.add?_eq_some_iff.2 hadd

end

/-- **Spans.**  A located span marks its range, on lines of the source; no step leaves the words or
the text; locating it again changes nothing; and a text in front of the source moves it. -/
theorem locate_marks_and_moves {source : String} (h : source.utf8ByteSize < 2 ^ 63)
    (start stop : UInt64) :
    let s := locate source start stop
    s.Marks source start stop ∧
      (1 ≤ s.startLine.toNat ∧ s.startLine.toNat ≤ s.endLine.toNat ∧
        s.endLine.toNat ≤ 1 + lineEnds (bytesOf source)) ∧
      locate? source start stop = some s ∧
      (lineCount? s = some s.lineCount ∧
        s.lineCount.toNat = s.endLine.toNat - s.startLine.toNat + 1) ∧
      locate source s.startOffset s.endOffset = s ∧
      ∀ (before : String) (start' stop' : UInt64),
        before.utf8ByteSize + source.utf8ByteSize < 2 ^ 63 →
        start.toNat ≤ source.utf8ByteSize → stop.toNat ≤ source.utf8ByteSize →
        start'.toNat = before.utf8ByteSize + start.toNat →
        stop'.toNat = before.utf8ByteSize + stop.toNat →
        (locate (before ++ source) start' stop').IsMoved s
          before.utf8ByteSize (lineEnds (bytesOf before)) := by
  intro s
  have hm : s.Marks source start stop := marks_locate h start stop
  have hfirst : 1 ≤ s.startLine.toNat := hm.startLine ▸ one_le_lineAt ..
  exact ⟨hm, ⟨hfirst, hm.startLine_le, hm.endLine_le⟩, locate?_eq_some h start stop,
    lineCount?_locate h start stop, (marks_locate h _ _).unique hm.self,
    fun _ _ _ hboth hstart hstop hstart' hstop' =>
      isMoved_locate h hboth hstart hstop hstart' hstop'⟩

/-- A range that begins inside a character and ends with a line break. -/
theorem locate_marks_and_moves_accented :
    "é\nb\n".utf8ByteSize < 2 ^ 63 ∧ (locate "é\nb\n" 1 5).Marks "é\nb\n" 1 5 ∧
      locate? "é\nb\n" 1 5 = some ⟨1, 5, 1, 2⟩ ∧
      (locate ("x\n" ++ "é\nb\n") 3 7).IsMoved (locate "é\nb\n" 1 5)
        "x\n".utf8ByteSize (lineEnds (bytesOf "x\n")) := by
  have hsize : "é\nb\n".utf8ByteSize < 2 ^ 63 := by decide
  have hlocate : locate "é\nb\n" 1 5 = ⟨1, 5, 1, 2⟩ := by decide +kernel
  obtain ⟨hmarks, -, hsteps, -, -, hmoves⟩ := locate_marks_and_moves hsize 1 5
  exact ⟨hsize, hmarks, hlocate ▸ hsteps,
    hmoves "x\n" 3 7 (by decide) (by decide) (by decide) (by decide) (by decide)⟩

end CodeIdioms.Span
