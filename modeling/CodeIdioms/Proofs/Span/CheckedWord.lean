import CodeIdioms.Span
import Mathlib.Algebra.Group.Nat.Defs

/-! # Checked words

Arithmetic on 64-bit words that has no result where the number does not fit, and ranges of bytes
that have none where they do not lie in the bytes.  What holds of a result is the equation in natural
numbers, and the equation determines the result. -/

namespace CodeIdioms.Word

/-- The word of a number. -/
def ofNat? (n : Nat) : Option UInt64 := if n < UInt64.size then some n.toUInt64 else none

/-- The sum of words. -/
def add? (a b : UInt64) : Option UInt64 := ofNat? (a.toNat + b.toNat)

/-- The difference of words. -/
def sub? (a b : UInt64) : Option UInt64 := if b ≤ a then some (a - b) else none

/-- A word brought between two others, of which the first must not be the greater one. -/
def clamp? (a lo hi : UInt64) : Option UInt64 :=
  if lo ≤ hi then some (if a < lo then lo else if hi < a then hi else a) else none

/-- The bytes from one offset to another. -/
def slice? (bytes : List UInt8) (start stop : UInt64) : Option (List UInt8) :=
  if start ≤ stop ∧ stop.toNat ≤ bytes.length then some ((bytes.take stop.toNat).drop start.toNat)
  else none

theorem ofNat?_eq_some_iff {n : Nat} {w : UInt64} : ofNat? n = some w ↔ w.toNat = n := by
  have hw := w.toNat_lt
  unfold ofNat?
  constructor
  · intro h
    split at h
    · rename_i hn
      rw [← Option.some.inj h, Nat.toUInt64_eq, UInt64.toNat_ofNat_of_lt' hn]
    · cases h
  · rintro rfl
    rw [if_pos hw, Nat.toUInt64_eq, UInt64.ofNat_toNat]

theorem exists_ofNat? {n : Nat} (h : n < 2 ^ 64) : ∃ w, ofNat? n = some w ∧ w.toNat = n := by
  refine ⟨n.toUInt64, if_pos h, ?_⟩
  rw [Nat.toUInt64_eq, UInt64.toNat_ofNat_of_lt' h]

theorem add?_eq_some_iff {a b w : UInt64} : add? a b = some w ↔ w.toNat = a.toNat + b.toNat :=
  ofNat?_eq_some_iff

theorem sub?_eq_some_iff {a b w : UInt64} : sub? a b = some w ↔ a.toNat = b.toNat + w.toNat := by
  unfold sub?
  constructor
  · intro h
    split at h
    · rename_i hle
      have hle' := UInt64.le_iff_toNat_le.1 hle
      rw [← Option.some.inj h, UInt64.toNat_sub_of_le _ _ hle]
      omega
    · cases h
  · intro h
    have hle : b ≤ a := UInt64.le_iff_toNat_le.2 (by omega)
    rw [if_pos hle]
    refine congrArg some (UInt64.toNat_inj.1 ?_)
    rw [UInt64.toNat_sub_of_le _ _ hle]
    omega

theorem clamp?_eq_some_iff {a lo hi w : UInt64} (h : lo ≤ hi) :
    clamp? a lo hi = some w ↔ w.toNat = max lo.toNat (min a.toNat hi.toNat) := by
  have hle := UInt64.le_iff_toNat_le.1 h
  unfold clamp?
  rw [if_pos h, Option.some_inj, ← UInt64.toNat_inj, eq_comm]
  simp only [UInt64.lt_iff_toNat_lt]
  split
  · rw [show max lo.toNat (min a.toNat hi.toNat) = lo.toNat by omega]
  · split
    · rw [show max lo.toNat (min a.toNat hi.toNat) = hi.toNat by omega]
    · rw [show max lo.toNat (min a.toNat hi.toNat) = a.toNat by omega]

theorem slice?_eq_some {bytes : List UInt8} {start stop : UInt64} (h : start.toNat ≤ stop.toNat)
    (hstop : stop.toNat ≤ bytes.length) :
    slice? bytes start stop = some ((bytes.take stop.toNat).drop start.toNat) := by
  unfold slice?
  rw [if_pos ⟨UInt64.le_iff_toNat_le.2 h, hstop⟩]

end CodeIdioms.Word
