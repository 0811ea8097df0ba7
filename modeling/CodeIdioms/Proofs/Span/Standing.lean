import CodeIdioms.Proofs.Span.Extent

/-! # What stands at a span

A span has a text if and only if both of its offsets lie between characters (`text?_eq_none_iff`), and
then its text is what stands between them (`text?_eq_some_iff`): the source is what comes before, the
text, and what comes after.  The lines of the span count the line ends of the first of these parts, and
those of the text without its last byte (`isPlaced_of_marks`). -/

namespace CodeIdioms

namespace Text

/-- An offset lies between characters of a text, or at one of its ends. -/
def IsBoundary (source : String) (offset : UInt64) : Prop :=
  (⟨offset.toNat⟩ : String.Pos.Raw).IsValid source

/-- A text stands in a source after some text and before another, on lines that the line ends tell. -/
structure IsPlaced (source before text after : String) (startLine endLine : UInt64) : Prop where
  source_eq : source = before ++ text ++ after
  first_line : startLine.toNat = 1 + Span.lineEnds (Span.bytesOf before)
  last_line : endLine.toNat = startLine.toNat + Span.lineEnds (Span.bytesOf text).dropLast

/-! ### Cutting a text -/

theorem append_of_cutFrom {acc cs xs ys : List Char} {n : Nat}
    (h : cutFrom acc cs n = some (xs, ys)) :
    ∃ zs, xs = acc.reverse ++ zs ∧ cs = zs ++ ys ∧ (String.ofList zs).utf8ByteSize = n := by
  induction cs generalizing acc n with
  | nil =>
    cases n with
    | zero =>
      obtain ⟨rfl, rfl⟩ := Prod.mk.inj (Option.some.inj h)
      exact ⟨[], by simp⟩
    | succ n => cases h
  | cons c cs ih =>
    cases n with
    | zero =>
      obtain ⟨rfl, rfl⟩ := Prod.mk.inj (Option.some.inj h)
      exact ⟨[], by simp⟩
    | succ n =>
      rw [cutFrom] at h
      split at h
      · rename_i hle
        obtain ⟨zs, rfl, rfl, hsize⟩ := ih h
        refine ⟨c :: zs, by simp, rfl, ?_⟩
        rw [utf8ByteSize_ofList_cons, hsize]
        omega
      · cases h

theorem append_of_cut {source : String} {n : Nat} {xs ys : List Char}
    (h : cut source.toList n = some (xs, ys)) :
    source = String.ofList xs ++ String.ofList ys ∧ (String.ofList xs).utf8ByteSize = n := by
  obtain ⟨zs, rfl, hcs, hsize⟩ := append_of_cutFrom h
  refine ⟨?_, by simpa using hsize⟩
  rw [← String.toList_inj, hcs, String.toList_append, String.toList_ofList, String.toList_ofList]

end Text

namespace Span

variable {s : Span} {source : String}

/-! ### The text of a span -/

theorem text?_eq_some_iff (h : s.startOffset.toNat ≤ s.endOffset.toNat) {text : String} :
    s.text? source = some text ↔ ∃ before after, source = before ++ text ++ after ∧
      before.utf8ByteSize = s.startOffset.toNat ∧
      (before ++ text).utf8ByteSize = s.endOffset.toNat := by
  constructor
  · intro htext
    obtain ⟨⟨xs, rest⟩, hcut, htext⟩ := Option.bind_eq_some_iff.1 htext
    obtain ⟨⟨middle, ys⟩, hcut', htext⟩ := Option.bind_eq_some_iff.1 htext
    obtain rfl := Option.some.inj htext
    obtain ⟨hsource, hsize⟩ := Text.append_of_cut hcut
    rw [← String.toList_ofList (l := rest)] at hcut'
    obtain ⟨hrest, hsize'⟩ := Text.append_of_cut hcut'
    refine ⟨String.ofList xs, String.ofList ys, ?_, hsize, ?_⟩
    · rw [hsource, hrest, String.append_assoc]
    · rw [String.utf8ByteSize_append, hsize, hsize']
      omega
  · rintro ⟨before, after, rfl, hstart, hend⟩
    exact text?_append hstart.symm hend.symm

/-- A span has no text if and only if one of its offsets lies inside a character. -/
theorem text?_eq_none_iff (h : s.startOffset.toNat ≤ s.endOffset.toNat) :
    s.text? source = none ↔
      ¬ Text.IsBoundary source s.startOffset ∨ ¬ Text.IsBoundary source s.endOffset := by
  rw [← not_and_or, Option.eq_none_iff_forall_ne_some, ← not_exists, not_iff_not]
  constructor
  · rintro ⟨text, htext⟩
    obtain ⟨before, after, rfl, hstart, hend⟩ := (text?_eq_some_iff h).1 htext
    have hrange := Text.isRange_append before text after
    rw [hstart, hend] at hrange
    exact ⟨hrange.start_valid, hrange.stop_valid⟩
  · rintro ⟨hstart, hend⟩
    have hrange : Text.IsRange source s.startOffset.toNat s.endOffset.toNat := ⟨h, hstart, hend⟩
    obtain ⟨before, text, after, hsource⟩ := hrange.exists_append
    exact ⟨text, (text?_eq_some_iff h).2 ⟨before, after, hsource⟩⟩

/-- The text of a span stands on the lines of the span. -/
theorem isPlaced_of_marks {before text after : String} {start stop : UInt64}
    (hm : s.Marks source start stop) (hsource : source = before ++ text ++ after)
    (hstart : before.utf8ByteSize = s.startOffset.toNat)
    (hend : (before ++ text).utf8ByteSize = s.endOffset.toNat) :
    Text.IsPlaced source before text after s.startLine s.endLine := by
  subst hsource
  have hline : s.startLine.toNat = 1 + lineEnds (bytesOf before) := by
    rw [hm.startLine, ← hstart, lineAt, String.append_assoc, bytesOf_append,
      List.take_left' (length_bytesOf before)]
  refine ⟨rfl, hline, ?_⟩
  have hlength : s.endOffset.toNat = s.startOffset.toNat + (bytesOf text).length := by
    rw [← hend, String.utf8ByteSize_append, hstart, length_bytesOf]
  rw [hm.endLine]
  split
  · rename_i hlt
    have hlt' := UInt64.lt_iff_toNat_lt.1 hlt
    have hbyte : s.endOffset.toNat - 1 = before.utf8ByteSize + ((bytesOf text).length - 1) := by omega
    rw [hline, hbyte, String.append_assoc, lineAt_append, lineAt, bytesOf_append,
      List.take_append_of_le_length (Nat.sub_le ..), List.dropLast_eq_take]
    omega
  · rename_i hle
    have hnil : bytesOf text = [] := by
      rw [UInt64.lt_iff_toNat_lt] at hle
      exact List.eq_nil_of_length_eq_zero (by omega)
    rw [hnil]
    rfl

end Span

end CodeIdioms
