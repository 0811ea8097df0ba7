/-! # Cutting a text at a byte offset

Offsets count the bytes of the UTF-8 form.  A text can be cut only between characters. -/

namespace CodeIdioms.Text

/-- Cuts characters after `n` bytes; `none` when the offset lies inside a character or beyond the
end.  The characters before the cut are collected in `acc`, last first. -/
def cutFrom (acc : List Char) : List Char → Nat → Option (List Char × List Char)
  | cs, 0 => some (acc.reverse, cs)
  | [], _ + 1 => none
  | c :: cs, n + 1 => if c.utf8Size ≤ n + 1 then cutFrom (c :: acc) cs (n + 1 - c.utf8Size) else none

/-- Cuts characters after `n` bytes. -/
def cut (cs : List Char) (n : Nat) : Option (List Char × List Char) := cutFrom [] cs n

/-- A range of byte offsets that begins and ends between characters of a text. -/
structure IsRange (source : String) (start stop : Nat) : Prop where
  le : start ≤ stop
  start_valid : (⟨start⟩ : String.Pos.Raw).IsValid source
  stop_valid : (⟨stop⟩ : String.Pos.Raw).IsValid source

theorem utf8ByteSize_ofList_cons (c : Char) (cs : List Char) :
    (String.ofList (c :: cs)).utf8ByteSize = c.utf8Size + (String.ofList cs).utf8ByteSize := by
  rw [← List.singleton_append, String.ofList_append, String.utf8ByteSize_append]
  congr 1
  exact String.utf8ByteSize_singleton

/-- Cutting after the bytes of some characters gives back these characters. -/
theorem cutFrom_append (acc xs ys : List Char) :
    cutFrom acc (xs ++ ys) (String.ofList xs).utf8ByteSize = some (acc.reverse ++ xs, ys) := by
  induction xs generalizing acc with
  | nil => cases ys <;> simp [cutFrom]
  | cons c xs ih =>
    have hc := c.utf8Size_pos
    rw [utf8ByteSize_ofList_cons]
    obtain ⟨n, hn⟩ : ∃ n, c.utf8Size + (String.ofList xs).utf8ByteSize = n + 1 :=
      Nat.exists_eq_succ_of_ne_zero (by omega)
    rw [hn, List.cons_append, cutFrom, if_pos (by omega), ← hn, Nat.add_sub_cancel_left, ih]
    simp

theorem cut_append (before after : String) :
    cut (before ++ after).toList before.utf8ByteSize = some (before.toList, after.toList) := by
  have h := cutFrom_append [] before.toList after.toList
  rw [String.ofList_toList] at h
  rw [cut, String.toList_append, h]
  rfl

theorem isRange_append (before middle after : String) :
    IsRange (before ++ middle ++ after) before.utf8ByteSize (before ++ middle).utf8ByteSize where
  le := by
    rw [String.utf8ByteSize_append]
    omega
  start_valid := String.Pos.Raw.isValid_iff_exists_append.2
    ⟨before, middle ++ after, by rw [String.append_assoc], rfl⟩
  stop_valid := String.Pos.Raw.isValid_iff_exists_append.2 ⟨before ++ middle, after, rfl, rfl⟩

/-- A range divides its text into what is before, in and after it. -/
theorem IsRange.exists_append {source : String} {start stop : Nat} (h : IsRange source start stop) :
    ∃ before middle after : String, source = before ++ middle ++ after ∧
      before.utf8ByteSize = start ∧ (before ++ middle).utf8ByteSize = stop := by
  obtain ⟨xs, ys, hxy, hx⟩ := String.Pos.Raw.isValid_iff_exists_append.1 h.start_valid
  obtain ⟨us, vs, huv, hu⟩ := String.Pos.Raw.isValid_iff_exists_append.1 h.stop_valid
  have hxs : xs.utf8ByteSize = start := (congrArg String.Pos.Raw.byteIdx hx).symm
  have hus : us.utf8ByteSize = stop := (congrArg String.Pos.Raw.byteIdx hu).symm
  have hle := h.le
  have he : xs.toList ++ ys.toList = us.toList ++ vs.toList := by
    rw [← String.toList_append, ← String.toList_append, ← hxy, ← huv]
  rcases List.append_eq_append_iff.1 he with ⟨ms, hms, _⟩ | ⟨ms, hms, _⟩
  · have hus' : us = xs ++ String.ofList ms := by
      rw [← String.toList_inj, String.toList_append, String.toList_ofList, hms]
    exact ⟨xs, String.ofList ms, vs, by rw [← hus', huv], hxs, by rw [← hus', hus]⟩
  · have hxs' : xs = us ++ String.ofList ms := by
      rw [← String.toList_inj, String.toList_append, String.toList_ofList, hms]
    have hm : (String.ofList ms).utf8ByteSize = 0 := by
      rw [hxs', String.utf8ByteSize_append] at hxs
      omega
    rw [String.utf8ByteSize_eq_zero_iff.1 hm, String.append_empty] at hxs'
    subst hxs'
    exact ⟨xs, "", vs, by rw [String.append_empty, huv], hxs, by rw [String.append_empty, hus]⟩

end CodeIdioms.Text
