import CodeIdioms.Settings.Loading
import CodeIdioms.Proofs.Decimal.Order

/-! # Valid settings

Settings are checked option by option, and none is refused if and only if all of them are within
their bounds (`invalidOption?_eq_none`).  A threshold of confidence that is a NaN is not, since a NaN
is comparable with nothing. -/

namespace CodeIdioms.Settings

/-- Settings all of whose options are within their bounds. -/
structure Valid (s : Settings) : Prop where
  zero_le_minConfidence : 0.0 ≤ s.detect.minConfidence
  minConfidence_le_one : s.detect.minConfidence ≤ 1.0
  ruleSizeLimit_pos : 0 < s.detect.ruleSizeLimit
  targetLanguage_visible : Text.isBlankText s.narrative.targetLanguage = false
  maxFileBytes_pos : 0 < s.scan.maxFileBytes
  maxJobs_pos : ∀ n, s.scan.maxJobs = some n → 1 ≤ n
  extensions_ne_nil : s.scan.extensions ≠ []

theorem Valid.not_isNaN {s : Settings} (h : s.Valid) : s.detect.minConfidence.isNaN = false :=
  (Decimal.not_isNaN_of_le h.minConfidence_le_one).1

theorem ne_some_zero_iff {o : Option UInt64} : o ≠ some 0 ↔ ∀ n, o = some n → 1 ≤ n := by
  constructor
  · rintro h n rfl
    have hn : n ≠ 0 := fun hzero => h (hzero ▸ rfl)
    exact UInt64.pos_iff_ne_zero.2 hn
  · rintro h rfl
    exact absurd (h 0 rfl) (by decide)

/-- A test that refuses comes before other tests. -/
theorem ite_some_eq_none {α : Type} {c : Prop} [Decidable c] {x : α} {o : Option α} :
    (if c then some x else o) = none ↔ ¬ c ∧ o = none := by
  by_cases h : c
  · rw [if_pos h]
    exact ⟨nofun, fun h' => absurd h h'.1⟩
  · rw [if_neg h, and_iff_right h]

theorem invalidOption?_eq_none {s : Settings} : s.invalidOption? = none ↔ s.Valid := by
  have hbounds : ¬ (!(decide (0.0 ≤ s.detect.minConfidence) &&
      decide (s.detect.minConfidence ≤ 1.0))) = true ↔
        0.0 ≤ s.detect.minConfidence ∧ s.detect.minConfidence ≤ 1.0 := by
    rw [Bool.not_eq_true', Bool.not_eq_false, Bool.and_eq_true, decide_eq_true_iff,
      decide_eq_true_iff]
  unfold invalidOption?
  simp only [ite_some_eq_none]
  rw [hbounds, Bool.not_eq_true, List.isEmpty_iff, ← ne_eq s.detect.ruleSizeLimit,
    ← ne_eq s.scan.maxFileBytes, ← UInt64.pos_iff_ne_zero, ← UInt64.pos_iff_ne_zero]
  constructor
  · rintro ⟨⟨h, h'⟩, hsize, htarget, hbytes, hjobs, hextensions, _⟩
    exact ⟨h, h', hsize, htarget, hbytes, ne_some_zero_iff.1 hjobs, hextensions⟩
  · rintro ⟨h, h', hsize, htarget, hbytes, hjobs, hextensions⟩
    exact ⟨⟨h, h'⟩, hsize, htarget, hbytes, ne_some_zero_iff.2 hjobs, hextensions, trivial⟩

theorem checked_eq_ok {s s' : Settings} : s.checked = .ok s' ↔ s.Valid ∧ s' = s := by
  rw [← invalidOption?_eq_none]
  unfold checked
  cases s.invalidOption? with
  | some o => exact ⟨nofun, fun h => nomatch h.1⟩
  | none => rw [Except.ok.injEq, eq_comm, and_iff_right rfl]

theorem valid_default : Valid {} := invalidOption?_eq_none.1 rfl

end CodeIdioms.Settings
