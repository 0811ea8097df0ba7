import CodeIdioms.Span
import Mathlib

/-! # The order of bytes

Texts are compared character by character, and the order that results is that of their bytes
(`lt_iff_bytesBefore`): UTF-8 encodes a smaller character by bytes that come earlier
(`lex_encode_of_lt`), since the first byte tells the length of an encoding and grows with it, and the
other bytes are digits of the character's number. -/

namespace CodeIdioms.Text

/-- A text comes before another in the lexical order of bytes. -/
def BytesBefore (s t : String) : Prop :=
  List.Lex (· < ·) (Span.bytesOf s) (Span.bytesOf t)

/-! ### One character -/

theorem lex_cons_ofNat {a b : Nat} (ha : a < 256) (hb : b < 256) {u v : List UInt8} :
    List.Lex (· < ·) (UInt8.ofNat a :: u) (UInt8.ofNat b :: v)
      ↔ a < b ∨ a = b ∧ List.Lex (· < ·) u v := by
  rw [List.cons_lex_cons_iff, UInt8.lt_iff_toNat_lt, ← UInt8.toNat_inj,
    UInt8.toNat_ofNat_of_lt' ha, UInt8.toNat_ofNat_of_lt' hb]

theorem toNat_lt (c : Char) : c.val.toNat < 1114112 := by
  obtain h | ⟨_, h⟩ := c.valid
  · exact Nat.lt_trans h (by decide)
  · exact h

theorem lex_encode_of_lt {c d : Char} (h : c < d) (u v : List UInt8) :
    List.Lex (· < ·) (String.utf8EncodeChar c ++ u) (String.utf8EncodeChar d ++ v) := by
  have hlt : c.val.toNat < d.val.toNat := h
  have hd := toNat_lt d
  unfold String.utf8EncodeChar
  generalize c.val.toNat = m at hlt ⊢
  generalize d.val.toNat = n at hlt hd ⊢
  dsimp only
  split_ifs <;>
    simp (disch := omega) only [List.cons_append, List.nil_append, lex_cons_ofNat]
  all_goals try omega
  -- four bytes each: the first digit in which the numbers differ decides
  rcases Nat.lt_or_ge (m / 262144) (n / 262144) with h | h
  · exact .inl (by omega)
  refine .inr ⟨by omega, ?_⟩
  rcases Nat.lt_or_ge (m / 4096) (n / 4096) with h | h
  · exact .inl (by omega)
  refine .inr ⟨by omega, ?_⟩
  rcases Nat.lt_or_ge (m / 64) (n / 64) with h | h
  · exact .inl (by omega)
  exact .inr ⟨by omega, .inl (by omega)⟩

theorem encode_ne_nil (c : Char) : String.utf8EncodeChar c ≠ [] := by
  unfold String.utf8EncodeChar
  dsimp only
  split_ifs <;> exact List.cons_ne_nil _ _

/-! ### Texts -/

theorem bytesOf_eq (s : String) : Span.bytesOf s = s.toList.flatMap String.utf8EncodeChar := by
  unfold Span.bytesOf String.toUTF8
  rw [← String.utf8Encode_toList]
  exact congrArg Array.toList List.data_toByteArray

/-- A common beginning does not decide. -/
theorem lex_append_left {α : Type} {r : α → α → Prop} (hr : ∀ a, ¬ r a a) (l u v : List α) :
    List.Lex r (l ++ u) (l ++ v) ↔ List.Lex r u v := by
  induction l with
  | nil => exact Iff.rfl
  | cons a l ih =>
    rw [List.cons_append, List.cons_append, List.cons_lex_cons_iff, ih]
    simp [hr a]

theorem lex_flatMap_encode (cs ds : List Char) :
    List.Lex (· < ·) (cs.flatMap String.utf8EncodeChar) (ds.flatMap String.utf8EncodeChar)
      ↔ List.Lex (· < ·) cs ds := by
  induction cs generalizing ds with
  | nil =>
    cases ds with
    | nil => simp
    | cons d ds =>
      obtain ⟨b, bs, hd⟩ := List.exists_cons_of_ne_nil (encode_ne_nil d)
      rw [List.flatMap_cons, hd]
      exact iff_of_true .nil .nil
  | cons c cs ih =>
    cases ds with
    | nil => exact iff_of_false (by simp) (by simp)
    | cons d ds =>
      rw [List.flatMap_cons, List.flatMap_cons, List.cons_lex_cons_iff]
      rcases lt_trichotomy c d with h | rfl | h
      · exact iff_of_true (lex_encode_of_lt h _ _) (.inl h)
      · rw [lex_append_left (r := (· < ·)) UInt8.lt_irrefl, ih]
        simp
      · refine iff_of_false (fun hlex => ?_) (fun hlex => ?_)
        · exact Std.Asymm.asymm _ _ hlex (lex_encode_of_lt h _ _)
        · obtain hlt | ⟨rfl, _⟩ := hlex
          · exact lt_asymm h hlt
          · exact lt_irrefl _ h

/-- Texts in the order of their characters are in the order of their bytes. -/
theorem lt_iff_bytesBefore {s t : String} : s < t ↔ BytesBefore s t := by
  unfold BytesBefore
  rw [bytesOf_eq, bytesOf_eq, lex_flatMap_encode]
  exact String.lt_iff_toList_lt

end CodeIdioms.Text
