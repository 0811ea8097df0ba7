import CodeIdioms.Catalog.Statistics
import Mathlib

/-! # When statistics are consistent

Counts are words, and statistics are checked by adding words, so the check sees sums only up to
multiples of 2^64 (`foldl_add_eq`).  Of statistics that were counted nothing is lost by that, but
statistics can also be read from a document, with any words as counts.  Twenty-one words add up to
less than twenty-one times 2^64, and three words to less than three times 2^64; so the check accepts
exactly the statistics whose sums exceed the total by at most twenty and at most two times 2^64, and
it is right about those whose sums are words (`isConsistent_iff_sums`). -/

namespace CodeIdioms

/-- The sum of the counts of some keys, as a number; a key without a count adds nothing. -/
def countSum {κ : Type} (keys : List κ) (counts : κ → Option UInt64) : Nat :=
  (keys.map fun k => ((counts k).getD 0).toNat).sum

/-- A sum of words is the word of the sum of their numbers. -/
theorem foldl_add_eq (ws : List UInt64) (w : UInt64) :
    ws.foldl (· + ·) w = UInt64.ofNat (w.toNat + (ws.map UInt64.toNat).sum) := by
  induction ws generalizing w with
  | nil => simp
  | cons v ws ih =>
    rw [List.foldl_cons, ih, List.map_cons, List.sum_cons, ← Nat.add_assoc]
    simp only [UInt64.ofNat_add, UInt64.ofNat_toNat]

theorem sum_filterMap_eq_countSum {κ : Type} (keys : List κ) (counts : κ → Option UInt64) :
    ((keys.filterMap counts).map UInt64.toNat).sum = countSum keys counts := by
  unfold countSum
  induction keys with
  | nil => rfl
  | cons k keys ih =>
    rw [List.map_cons, List.sum_cons, ← ih]
    cases h : counts k with
    | none => simp [h]
    | some w => simp [h]

/-- What the check of a group of counts compares with the total. -/
theorem foldl_filterMap_eq {κ : Type} (keys : List κ) (counts : κ → Option UInt64) :
    (keys.filterMap counts).foldl (· + ·) 0 = UInt64.ofNat (countSum keys counts) := by
  rw [foldl_add_eq, sum_filterMap_eq_countSum, UInt64.toNat_zero, Nat.zero_add]

/-- So many words add up to less than as many times 2^64. -/
theorem countSum_lt {κ : Type} {keys : List κ} (h : keys ≠ []) (counts : κ → Option UInt64) :
    countSum keys counts < keys.length * 2 ^ 64 := by
  unfold countSum
  induction keys with
  | nil => exact absurd rfl h
  | cons k keys ih =>
    have hword := ((counts k).getD 0).toNat_lt
    rw [List.map_cons, List.sum_cons, List.length_cons]
    by_cases hnil : keys = []
    · subst hnil
      simp only [List.map_nil, List.sum_nil, List.length_nil]
      omega
    · have hrest := ih hnil
      omega

/-- A number of which only the word counts is a word, up to multiples of 2^64. -/
theorem ofNat_eq_iff {n m : Nat} {w : UInt64} (hn : n < (m + 1) * 2 ^ 64) :
    UInt64.ofNat n = w ↔ ∃ i ≤ m, n = w.toNat + i * 2 ^ 64 := by
  have hw := w.toNat_lt
  rw [← UInt64.toNat_inj, UInt64.toNat_ofNat']
  constructor
  · intro h
    refine ⟨n / 2 ^ 64, ?_, ?_⟩
    · have hdiv : n / 2 ^ 64 < m + 1 := Nat.div_lt_of_lt_mul (by omega)
      omega
    · omega
  · rintro ⟨i, _, rfl⟩
    omega

namespace Statistics

/-- The sum of the counts by category. -/
def categorySum (s : Statistics) : Nat := countSum Category.all s.byCategory

/-- The sum of the counts by level. -/
def difficultySum (s : Statistics) : Nat := countSum Difficulty.all s.byDifficulty

/-- Both groups of counts add up to the total. -/
structure AddsUp (s : Statistics) : Prop where
  categories : s.categorySum = s.total.toNat
  difficulties : s.difficultySum = s.total.toNat

theorem isConsistent_iff {s : Statistics} : s.isConsistent = true
    ↔ UInt64.ofNat s.categorySum = s.total ∧ UInt64.ofNat s.difficultySum = s.total := by
  unfold isConsistent
  rw [foldl_filterMap_eq, foldl_filterMap_eq, Bool.and_eq_true, beq_iff_eq, beq_iff_eq]
  rfl

theorem AddsUp.isConsistent {s : Statistics} (h : s.AddsUp) : s.isConsistent = true := by
  rw [isConsistent_iff, h.categories, h.difficulties, UInt64.ofNat_toNat]
  exact ⟨rfl, rfl⟩

/-- **What the check of statistics tells.**  Statistics pass it if and only if their sums are the
total up to a multiple of 2^64, which is at most twenty times that for categories and at most two
times for levels; and statistics add up if and only if they pass it and their sums are words. -/
theorem isConsistent_iff_sums (s : Statistics) :
    (s.isConsistent = true ↔
      (∃ i ≤ 20, s.categorySum = s.total.toNat + i * 2 ^ 64) ∧
        ∃ j ≤ 2, s.difficultySum = s.total.toNat + j * 2 ^ 64) ∧
    (s.AddsUp ↔
      s.isConsistent = true ∧ s.categorySum < 2 ^ 64 ∧ s.difficultySum < 2 ^ 64) := by
  have hcategories : s.categorySum < (20 + 1) * 2 ^ 64 := countSum_lt (by decide) s.byCategory
  have hdifficulties : s.difficultySum < (2 + 1) * 2 ^ 64 := countSum_lt (by decide) s.byDifficulty
  have hpass : s.isConsistent = true ↔
      (∃ i ≤ 20, s.categorySum = s.total.toNat + i * 2 ^ 64) ∧
        ∃ j ≤ 2, s.difficultySum = s.total.toNat + j * 2 ^ 64 := by
    rw [isConsistent_iff, ofNat_eq_iff hcategories, ofNat_eq_iff hdifficulties]
  refine ⟨hpass, ?_⟩
  have htotal := s.total.toNat_lt
  rw [hpass]
  constructor
  · rintro ⟨hc, hd⟩
    refine ⟨⟨⟨0, by omega, by omega⟩, 0, by omega, by omega⟩, by omega, by omega⟩
  · rintro ⟨⟨⟨i, _, hi⟩, j, _, hj⟩, hc, hd⟩
    -- a sum that is a word leaves no room for 2^64
    have hi0 : i = 0 := by omega
    have hj0 : j = 0 := by omega
    subst hi0 hj0
    exact ⟨by omega, by omega⟩

/-- A document whose counts by category add up to 2^64, and whose total is zero. -/
def overflowing : String :=
  "\x7b\"total\":0,\"byCategory\":\x7b\"null_safety\":18446744073709551615,\"async\":1\x7d,"
    ++ "\"byDifficulty\":\x7b\x7d\x7d"

/-- Statistics that do not add up can pass the check. -/
theorem not_addsUp_overflowing :
    ∃ s, codec.readText overflowing = .ok s ∧ s.isConsistent = true ∧ ¬ s.AddsUp := by
  refine ⟨_, rfl, rfl, ?_⟩
  intro h
  have hcategories := h.categories
  revert hcategories
  decide

end Statistics

end CodeIdioms
