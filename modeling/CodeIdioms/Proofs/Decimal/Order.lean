import CodeIdioms.Decimal.Binary
import Mathlib

/-! # The two orders of doubles

Doubles are compared in two ways: by value, where the zeros are equal and a NaN is comparable with
nothing (`<` and `≤`), and in the total order of their bits (`orderKey`).  Every double but a NaN
has a rank, an integer that both orders can be read off:

* `lt_iff_rank`, `le_iff_rank`: the comparison by value is the comparison of ranks;
* `orderKey_of_rank`: a rank other than 0 determines the key in the total order, and ranks and keys
  increase together.

Hence a smaller value has a smaller key (`orderKey_lt_of_lt`); only for the zeros the total order
decides more than the values do.  The ranks are found by unpacking a double into its sign,
significand and exponent, as its comparison does. -/

namespace CodeIdioms.Decimal

open Float.Model (UnpackedFloat Format)
open Float.Model.UnpackedFloat (Sign unpackExponent unpackMantissa unpackSign)

/-! ### Unpacked numbers -/

/-- The rank of an unpacked number: its place among all finite and infinite numbers, by value. -/
def rankOf : UnpackedFloat → Option Int
  | .notANumber => none
  | .infinity s => some (s.apply (2047 * 2 ^ 52))
  | .zero _ => some 0
  | .finite s m e _ => some (s.apply ((e + 1074) * 2 ^ 52 + m))

/-- A significand and an exponent that the format of doubles gives to a number. -/
structure IsCanonical (m : Nat) (e : Int) : Prop where
  pos : 0 < m
  lt : m < 2 ^ 53
  le : e ≤ 971
  normal : e = -1074 ∨ -1074 < e ∧ 2 ^ 52 ≤ m

/-- Whether an unpacked number has the form that the format of doubles gives it. -/
def Canonical : UnpackedFloat → Prop
  | .finite _ m e _ => IsCanonical m e
  | _ => True

theorem IsCanonical.rank_bounds {m : Nat} {e : Int} (h : IsCanonical m e) :
    0 < (e + 1074) * 2 ^ 52 + (m : Int) ∧ (e + 1074) * 2 ^ 52 + (m : Int) < 2047 * 2 ^ 52 := by
  obtain ⟨hp, hlt, hle, hn⟩ := h
  omega

/-- Comparing exponents first and significands second is comparing one number made of both. -/
theorem then_compare {m m' : Nat} {e e' : Int} (h : IsCanonical m e) (h' : IsCanonical m' e') :
    (compare e e').then (compare m m')
      = compare ((e + 1074) * 2 ^ 52 + (m : Int)) ((e' + 1074) * 2 ^ 52 + (m' : Int)) := by
  obtain ⟨_, hlt, _, hn⟩ := h
  obtain ⟨_, hlt', _, hn'⟩ := h'
  rcases Int.lt_trichotomy e e' with he | rfl | he
  · rw [Int.compare_eq_lt.2 he]
    exact (Int.compare_eq_lt.2 (by omega)).symm
  · rw [Int.compare_eq_eq.2 rfl]
    rcases Nat.lt_trichotomy m m' with hm | rfl | hm
    · rw [Nat.compare_eq_lt.2 hm]
      exact (Int.compare_eq_lt.2 (by omega)).symm
    · rw [Nat.compare_eq_eq.2 rfl]
      exact (Int.compare_eq_eq.2 rfl).symm
    · rw [Nat.compare_eq_gt.2 hm]
      exact (Int.compare_eq_gt.2 (by omega)).symm
  · rw [Int.compare_eq_gt.2 he]
    exact (Int.compare_eq_gt.2 (by omega)).symm

theorem compare_neg (a b : Int) : compare (-a) (-b) = (compare a b).swap := by
  rcases Int.lt_trichotomy a b with h | rfl | h
  · rw [Int.compare_eq_lt.2 h, Int.compare_eq_gt.2 (by omega)]
    rfl
  · rw [Int.compare_eq_eq.2 rfl, Int.compare_eq_eq.2 rfl]
    rfl
  · rw [Int.compare_eq_gt.2 h, Int.compare_eq_lt.2 (by omega)]
    rfl

theorem some_lt_eq {a b : Int} (h : a < b) : some .lt = some (compare a b) :=
  congrArg some (Int.compare_eq_lt.2 h).symm

theorem some_gt_eq {a b : Int} (h : b < a) : some .gt = some (compare a b) :=
  congrArg some (Int.compare_eq_gt.2 h).symm

/-- Canonical numbers are compared as their ranks are. -/
theorem compare_eq_of_canonical {u v : UnpackedFloat} (hu : Canonical u) (hv : Canonical v) :
    u.compare v = (rankOf u).bind fun a => (rankOf v).map (compare a) := by
  cases u with
  | notANumber => rfl
  | infinity s =>
    cases v with
    | notANumber => cases s <;> rfl
    | infinity t => cases s <;> cases t <;> rfl
    | zero t => cases s <;> rfl
    | finite t m e _ =>
      have hb := IsCanonical.rank_bounds hv
      cases s
      · exact some_lt_eq (by cases t <;> simp only [Sign.apply] <;> omega)
      · exact some_gt_eq (by cases t <;> simp only [Sign.apply] <;> omega)
  | zero s =>
    cases v with
    | notANumber => rfl
    | infinity t => cases t <;> rfl
    | zero t => rfl
    | finite t m e _ =>
      have hb := IsCanonical.rank_bounds hv
      cases t
      · exact some_gt_eq (by simp only [Sign.apply]; omega)
      · exact some_lt_eq (by simp only [Sign.apply]; omega)
  | finite s m e _ =>
    have hb := IsCanonical.rank_bounds hu
    cases v with
    | notANumber => cases s <;> rfl
    | infinity t =>
      cases t
      · exact some_gt_eq (by cases s <;> simp only [Sign.apply] <;> omega)
      · exact some_lt_eq (by cases s <;> simp only [Sign.apply] <;> omega)
    | zero t =>
      cases s
      · exact some_lt_eq (by simp only [Sign.apply]; omega)
      · exact some_gt_eq (by simp only [Sign.apply]; omega)
    | finite t m' e' _ =>
      have hb' := IsCanonical.rank_bounds hv
      have hthen := then_compare hu hv
      cases s <;> cases t
      · show some _ = some (compare (-_) (-_))
        rw [hthen, compare_neg]
      · exact some_lt_eq (by simp only [Sign.apply]; omega)
      · exact some_gt_eq (by simp only [Sign.apply]; omega)
      · exact congrArg some hthen

theorem canonical_finite {s : Sign} {m r : Nat} {e : Int} {h : 0 < m} (hc : IsCanonical m e)
    (hr : (e + 1074) * 2 ^ 52 + (m : Int) = r) :
    Canonical (.finite s m e h) ∧ rankOf (.finite s m e h) = some (s.apply r) :=
  ⟨hc, congrArg (fun i => some (s.apply i)) hr⟩

/-! ### Bits -/

section bits
variable (b : BitVec 64)

theorem toNat_unpackExponent :
    (@unpackExponent Format.binary64 b).toNat = b.toNat / 2 ^ 52 % 2 ^ 11 := by
  unfold unpackExponent
  simp [BitVec.extractLsb, Nat.shiftRight_eq_div_pow]

theorem toNat_unpackMantissa :
    (@unpackMantissa Format.binary64 b).toNat = b.toNat % 2 ^ 52 := by
  unfold unpackMantissa
  simp [BitVec.extractLsb]

theorem toNat_unpackSign :
    (@unpackSign Format.binary64 b).toNat = b.toNat / 2 ^ 63 := by
  have hb := b.isLt
  unfold unpackSign
  simp [BitVec.extractLsb, Nat.shiftRight_eq_div_pow]
  omega

/-- The sign that the first bit tells. -/
def signOfBits : Sign := if b.toNat < 2 ^ 63 then .positive else .negative

theorem ofBitVec_unpackSign : Sign.ofBitVec (@unpackSign Format.binary64 b) = signOfBits b := by
  have hb := b.isLt
  have hs := toNat_unpackSign b
  unfold Sign.ofBitVec signOfBits
  by_cases h : b.toNat < 2 ^ 63
  · rw [if_pos h, if_pos (BitVec.eq_of_toNat_eq (by rw [hs]; simp; omega))]
  · rw [if_neg h, if_neg fun he => h (by rw [he] at hs; simp at hs; omega)]

/-- The rank of the number that bits encode, if it is one. -/
def rankOfBits : Option Int :=
  if 2047 * 2 ^ 52 < b.toNat % 2 ^ 63 then none
  else some ((signOfBits b).apply (b.toNat % 2 ^ 63 : Nat))

theorem toNat_implicit (m : BitVec 52) : (1#1 ++ m).toNat = 2 ^ 52 + m.toNat := by
  rw [BitVec.toNat_append, ← Nat.shiftLeft_add_eq_or_of_lt m.isLt]
  rfl

/-- Unpacking gives a canonical number, whose rank can be read off the bits. -/
theorem unpack_rank :
    Canonical (UnpackedFloat.unpack Format.binary64 b)
      ∧ rankOf (UnpackedFloat.unpack Format.binary64 b) = rankOfBits b := by
  have he := toNat_unpackExponent b
  have hm := toNat_unpackMantissa b
  have hb := b.isLt
  have hbias : (Format.binary64.exponentBias : Int) = 1023 := rfl
  unfold UnpackedFloat.unpack rankOfBits
  simp only [ofBitVec_unpackSign]
  split
  · next hones =>
    have hexp : b.toNat / 2 ^ 52 % 2 ^ 11 = 2047 := by rw [← he, hones]; rfl
    split
    · next hzero =>
      have hmant : b.toNat % 2 ^ 52 = 0 := by rw [← hm, hzero]; rfl
      have hmag : b.toNat % 2 ^ 63 = 2047 * 2 ^ 52 := by omega
      refine ⟨trivial, ?_⟩
      rw [hmag]
      rfl
    · next hnonzero =>
      have hmant : b.toNat % 2 ^ 52 ≠ 0 := fun h =>
        hnonzero (BitVec.eq_of_toNat_eq (by rw [hm, h]; rfl))
      refine ⟨trivial, ?_⟩
      rw [if_pos (by omega)]
      rfl
  · next hones =>
    have hexp : b.toNat / 2 ^ 52 % 2 ^ 11 ≠ 2047 := fun h =>
      hones (BitVec.eq_of_toNat_eq (by rw [he, h]; rfl))
    have hnumber : ¬ 2047 * 2 ^ 52 < b.toNat % 2 ^ 63 := by omega
    rw [if_neg hnumber]
    split
    · next hzero =>
      have hexp0 : b.toNat / 2 ^ 52 % 2 ^ 11 = 0 := by rw [← he, hzero]; rfl
      split
      · next hmant0 =>
        have hmant : b.toNat % 2 ^ 52 = 0 := by rw [← hm, hmant0]; rfl
        have hmag : b.toNat % 2 ^ 63 = 0 := by omega
        refine ⟨trivial, ?_⟩
        rw [hmag]
        cases signOfBits b <;> rfl
      · next hmant0 =>
        have hmant : b.toNat % 2 ^ 52 ≠ 0 := fun h =>
          hmant0 (BitVec.eq_of_toNat_eq (by rw [hm, h]; rfl))
        exact canonical_finite ⟨by omega, by omega, by omega, by omega⟩ (by omega)
    · next hnonzero =>
      have hexp0 : b.toNat / 2 ^ 52 % 2 ^ 11 ≠ 0 := fun h =>
        hnonzero (BitVec.eq_of_toNat_eq (by rw [he, h]; rfl))
      have hsig := toNat_implicit (@unpackMantissa Format.binary64 b)
      exact canonical_finite ⟨by omega, by omega, by omega, by omega⟩ (by omega)

end bits

/-! ### Doubles -/

/-- The rank of a double: both zeros have the rank 0, and a NaN has none. -/
def rank? (x : Float) : Option Int := rankOfBits x.toBits.toBitVec

theorem compare_toModel (x y : Float) :
    x.toModel.unpack.compare y.toModel.unpack
      = (rank? x).bind fun a => (rank? y).map (compare a) := by
  obtain ⟨hcx, hrx⟩ := unpack_rank x.toBits.toBitVec
  obtain ⟨hcy, hry⟩ := unpack_rank y.toBits.toBitVec
  unfold rank?
  rw [← hrx, ← hry]
  exact compare_eq_of_canonical hcx hcy

theorem lt_iff_compare {x y : Float} :
    x < y ↔ x.toModel.unpack.compare y.toModel.unpack = some .lt := by
  show Float.lt x y = true ↔ _
  unfold Float.lt
  rw [decide_eq_true_iff]
  exact beq_iff_eq

theorem le_iff_compare {x y : Float} :
    x ≤ y ↔ (x.toModel.unpack.compare y.toModel.unpack).any (·.isLE) = true := by
  show Float.le x y = true ↔ _
  unfold Float.le
  rw [decide_eq_true_iff]
  exact Iff.rfl

theorem lt_iff_rank {x y : Float} :
    x < y ↔ ∃ a b, rank? x = some a ∧ rank? y = some b ∧ a < b := by
  rw [lt_iff_compare, compare_toModel]
  cases rank? x with
  | none => simp
  | some a =>
    cases rank? y with
    | none => simp
    | some b => simp [Int.compare_eq_lt]

theorem le_iff_rank {x y : Float} :
    x ≤ y ↔ ∃ a b, rank? x = some a ∧ rank? y = some b ∧ a ≤ b := by
  rw [le_iff_compare, compare_toModel]
  cases rank? x with
  | none => simp
  | some a =>
    cases rank? y with
    | none => simp
    | some b => simp [Int.isLE_compare]

/-- The total order agrees with the ranks, and puts the zeros side by side. -/
theorem orderKey_of_rank {x : Float} {a : Int} (h : rank? x = some a) :
    (a < 0 → (orderKey x : Int) = 2 ^ 63 - 1 + a) ∧ (0 < a → (orderKey x : Int) = 2 ^ 63 + a)
      ∧ (a = 0 → 2 ^ 63 - 1 ≤ orderKey x ∧ orderKey x ≤ 2 ^ 63) := by
  have hb := x.toBits.toBitVec.isLt
  change x.toBits.toNat < 2 ^ 64 at hb
  unfold rank? rankOfBits at h
  split at h
  · cases h
  · obtain rfl := Option.some.inj h
    by_cases hs : x.toBits.toNat < 2 ^ 63
    · have hk : orderKey x = 2 ^ 63 + x.toBits.toNat := if_pos hs
      have hp : signOfBits x.toBits.toBitVec = .positive := if_pos hs
      rw [hk, hp]
      simp only [Sign.apply, UInt64.toNat_toBitVec]
      omega
    · have hk : orderKey x = 2 ^ 64 - 1 - x.toBits.toNat := if_neg hs
      have hp : signOfBits x.toBits.toBitVec = .negative := if_neg hs
      rw [hk, hp]
      simp only [Sign.apply, UInt64.toNat_toBitVec]
      omega

theorem orderKey_lt_of_lt {x y : Float} (h : x < y) : orderKey x < orderKey y := by
  obtain ⟨a, b, ha, hb, hab⟩ := lt_iff_rank.1 h
  have hx := orderKey_of_rank ha
  have hy := orderKey_of_rank hb
  omega

theorem le_trans {x y z : Float} (h : x ≤ y) (h' : y ≤ z) : x ≤ z := by
  obtain ⟨a, b, ha, hb, hab⟩ := le_iff_rank.1 h
  obtain ⟨b', c, hb', hc, hbc⟩ := le_iff_rank.1 h'
  obtain rfl := Option.some.inj (hb.symm.trans hb')
  exact le_iff_rank.2 ⟨a, c, ha, hc, Int.le_trans hab hbc⟩

theorem compare_nan_left (u : UnpackedFloat) : UnpackedFloat.compare .notANumber u = none := by
  cases u <;> rfl

theorem compare_nan_right (u : UnpackedFloat) : u.compare .notANumber = none := by
  cases u <;> rfl

/-- A NaN is on neither side of a comparison by value. -/
theorem not_isNaN_of_le {x y : Float} (h : x ≤ y) : x.isNaN = false ∧ y.isNaN = false := by
  rw [le_iff_compare] at h
  unfold Float.isNaN Float.Model.isNaN
  constructor
  · cases hx : x.toModel.unpack with
    | notANumber =>
      rw [hx, compare_nan_left] at h
      cases h
    | infinity | zero | finite => rfl
  · cases hy : y.toModel.unpack with
    | notANumber =>
      rw [hy, compare_nan_right] at h
      cases h
    | infinity | zero | finite => rfl

/-- What is on either side of a comparison by value is no NaN, so it is comparable with itself. -/
theorem le_self_of_le {x y : Float} (h : x ≤ y) : x ≤ x ∧ y ≤ y := by
  obtain ⟨a, b, ha, hb, _⟩ := le_iff_rank.1 h
  exact ⟨le_iff_rank.2 ⟨a, a, ha, ha, Int.le_refl a⟩, le_iff_rank.2 ⟨b, b, hb, hb, Int.le_refl b⟩⟩

/-- Of two doubles that are no NaN, one is not below the other exactly if the other is at most the
one. -/
theorem not_lt_iff_le {x y : Float} (hx : x ≤ x) (hy : y ≤ y) : ¬ x < y ↔ y ≤ x := by
  obtain ⟨a, _, ha, _⟩ := le_iff_rank.1 hx
  obtain ⟨b, _, hb, _⟩ := le_iff_rank.1 hy
  rw [lt_iff_rank, le_iff_rank, ha, hb]
  simp

/-- What comes no earlier in the total order than a double of at least some value has at least that
value, unless it is a NaN. -/
theorem le_of_le_of_orderKey_le {m x y : Float} (hy : y ≤ y) (h : m ≤ x)
    (hkey : orderKey x ≤ orderKey y) : m ≤ y := by
  obtain ⟨a, b, ha, hb, hab⟩ := le_iff_rank.1 h
  obtain ⟨c, _, hc, _⟩ := le_iff_rank.1 hy
  refine le_iff_rank.2 ⟨a, c, ha, hc, ?_⟩
  rcases Int.lt_or_le c b with hcb | hbc
  · have hlt := orderKey_lt_of_lt (lt_iff_rank.2 ⟨c, b, hc, hb, hcb⟩)
    omega
  · exact Int.le_trans hab hbc

/-! ### The zeros -/

theorem beq_iff_rank {x y : Float} :
    (x == y) = true ↔ ∃ a, rank? x = some a ∧ rank? y = some a := by
  show (x.toModel.unpack.compare y.toModel.unpack == some .eq) = true ↔ _
  rw [beq_iff_eq, compare_toModel]
  cases rank? x with
  | none => simp
  | some a =>
    cases rank? y with
    | none => simp
    | some b =>
      simp only [Option.bind_some, Option.map_some, Option.some.injEq, exists_eq_left',
        Int.compare_eq_eq]
      exact eq_comm

theorem orderKey_inj {x y : Float} : orderKey x = orderKey y ↔ x = y := by
  have hx := x.toBits.toNat_lt
  have hy := y.toBits.toNat_lt
  rw [← Float.toBits_inj, ← UInt64.toNat_inj]
  unfold orderKey
  dsimp only
  split <;> split <;> omega

/-- The doubles without a magnitude are the zeros. -/
theorem zero_of_rank {x : Float} (h : rank? x = some 0) : x = -0.0 ∨ x = 0.0 := by
  obtain ⟨_, _, hzero⟩ := orderKey_of_rank h
  have hneg : orderKey (-0.0) = 2 ^ 63 - 1 := by decide
  have hpos : orderKey 0.0 = 2 ^ 63 := by decide
  rw [← orderKey_inj, ← orderKey_inj, hneg, hpos]
  have hkey := hzero rfl
  omega

/-- Only the zeros are equal by value and yet different doubles. -/
theorem eq_or_zeros_of_beq {x y : Float} (h : (x == y) = true) :
    x = y ∨ x = 0.0 ∧ y = -0.0 ∨ x = -0.0 ∧ y = 0.0 := by
  obtain ⟨a, hx, hy⟩ := beq_iff_rank.1 h
  by_cases ha : a = 0
  · subst ha
    rcases zero_of_rank hx with rfl | rfl <;> rcases zero_of_rank hy with rfl | rfl <;> simp
  · have hkeyx := orderKey_of_rank hx
    have hkeyy := orderKey_of_rank hy
    exact .inl (orderKey_inj.1 (by omega))

end CodeIdioms.Decimal
