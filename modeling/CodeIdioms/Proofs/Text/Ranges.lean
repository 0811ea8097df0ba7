import CodeIdioms.Text.Ranges

/-! # The members of a set of code points

Membership looks at ranges in ascending order and stops early; what it decides for ascending ranges
is whether one of them covers the code point.  Normalizing brings any ranges into that order and
covers the same code points, so membership in a normalized set does not depend on how the set was
written (`contains_normalize`). -/

namespace CodeIdioms.Text.Ranges

/-- A code point lies in one of the ranges. -/
def Covers (s : Ranges) (c : Nat) : Prop := ∃ r ∈ s, r.1 ≤ c ∧ c ≤ r.2

/-- The ranges come in the order of their lower ends. -/
def Ascending (s : Ranges) : Prop := s.Pairwise fun r r' => r.1 ≤ r'.1

variable {s : Ranges} {c : Nat}

theorem covers_cons {r : Nat × Nat} : Covers (r :: s) c ↔ r.1 ≤ c ∧ c ≤ r.2 ∨ s.Covers c := by
  unfold Covers
  simp only [List.mem_cons, or_and_right, exists_or, exists_eq_left]

theorem covers_of_contains (h : s.contains c = true) : s.Covers c := by
  induction s with
  | nil => cases h
  | cons r s ih =>
    unfold contains at h
    rw [covers_cons]
    split at h
    · cases h
    · split at h
      · exact .inl ⟨by omega, by omega⟩
      · exact .inr (ih h)

theorem contains_iff_covers (h : s.Ascending) : s.contains c = true ↔ s.Covers c := by
  refine ⟨covers_of_contains, fun hcovers => ?_⟩
  induction s with
  | nil =>
    obtain ⟨r, hr, -⟩ := hcovers
    cases hr
  | cons r s ih =>
    obtain ⟨hfirst, hrest⟩ := List.pairwise_cons.1 h
    unfold contains
    rcases covers_cons.1 hcovers with hc | hc
    · rw [if_neg (by omega), if_pos hc.2]
    · have hle : r.1 ≤ c := by
        obtain ⟨r', hr', hc', -⟩ := hc
        exact Nat.le_trans (hfirst r' hr') hc'
      rw [if_neg (by omega)]
      split
      · rfl
      · exact ih hrest hc

/-- Joining ranges makes no new lower ends. -/
theorem exists_of_mem_coalesce {r : Nat × Nat} (h : r ∈ coalesce s) : ∃ r' ∈ s, r'.1 = r.1 := by
  induction s generalizing r with
  | nil => cases h
  | cons first s ih =>
    unfold coalesce at h
    split at h
    · exact ⟨first, List.mem_cons_self, by rw [List.mem_singleton.1 h]⟩
    · next lo' hi' tail heq =>
      have hself : ∀ r, r ∈ (lo', hi') :: tail → ∃ r' ∈ first :: s, r'.1 = r.1 := by
        intro r hr
        obtain ⟨r', hr', heq'⟩ := ih (heq ▸ hr)
        exact ⟨r', List.mem_cons_of_mem _ hr', heq'⟩
      split at h
      · rcases List.mem_cons.1 h with rfl | h
        · exact ⟨first, List.mem_cons_self, rfl⟩
        · exact hself r (List.mem_cons_of_mem _ h)
      · rcases List.mem_cons.1 h with rfl | h
        · exact ⟨first, List.mem_cons_self, rfl⟩
        · exact hself r h

/-- Joining ascending ranges keeps their order and what they cover. -/
theorem coalesce_spec (h : s.Ascending) :
    (coalesce s).Ascending ∧ ∀ c, (coalesce s).Covers c ↔ s.Covers c := by
  induction s with
  | nil => exact ⟨List.Pairwise.nil, fun c => Iff.rfl⟩
  | cons r s ih =>
    obtain ⟨hfirst, hrest⟩ := List.pairwise_cons.1 h
    obtain ⟨hascending, hcovers⟩ := ih hrest
    have hlow : ∀ r' ∈ coalesce s, r.1 ≤ r'.1 := by
      intro r' hr'
      obtain ⟨r'', hr'', heq⟩ := exists_of_mem_coalesce hr'
      exact heq ▸ hfirst r'' hr''
    unfold coalesce
    split
    · next heq =>
      rw [heq] at hcovers
      refine ⟨List.pairwise_singleton _ _, fun c => ?_⟩
      rw [covers_cons, covers_cons, hcovers]
    · next lo' hi' tail heq =>
      rw [heq] at hascending hcovers hlow
      obtain ⟨hsecond, htail⟩ := List.pairwise_cons.1 hascending
      have hle : r.1 ≤ lo' := hlow (lo', hi') List.mem_cons_self
      split
      · next hjoin =>
        refine ⟨List.pairwise_cons.2 ⟨fun r' hr' => ?_, htail⟩, fun c => ?_⟩
        · exact hlow r' (List.mem_cons_of_mem _ hr')
        · rw [covers_cons, covers_cons, ← hcovers, covers_cons, ← or_assoc]
          refine or_congr_left ?_
          dsimp only
          omega
      · refine ⟨List.pairwise_cons.2 ⟨hlow, hascending⟩, fun c => ?_⟩
        rw [covers_cons, hcovers, covers_cons]

theorem length_coalesce_le (s : Ranges) : (coalesce s).length ≤ s.length := by
  induction s with
  | nil => exact Nat.le_refl _
  | cons r s ih =>
    unfold coalesce
    split
    · simp
    · next heq =>
      rw [heq, List.length_cons] at ih
      split <;> simp only [List.length_cons] <;> omega

theorem length_normalize_le (s : Ranges) : s.normalize.length ≤ s.length := by
  refine Nat.le_trans (length_coalesce_le _) ?_
  rw [List.length_mergeSort]
  exact List.length_filter_le _ _

theorem length_complement_le (s : Ranges) : s.complement.length ≤ s.length + 1 := by
  suffices hgaps : ∀ next, (gapsFrom next s).length ≤ s.length + 1 from hgaps 0
  induction s with
  | nil =>
    intro next
    unfold gapsFrom
    split <;> simp
  | cons r s ih =>
    intro next
    have hrest := ih (r.2 + 1)
    unfold gapsFrom
    split <;> simp only [List.length_cons] <;> omega

/-- **Normalizing keeps the set.**  A code point belongs to a normalized set exactly if one of the
ranges of which the set was made covers it. -/
theorem contains_normalize (s : Ranges) (c : Nat) :
    s.normalize.contains c = true ↔ s.Covers c := by
  let ordered := (s.filter fun r => decide (r.1 ≤ r.2)).mergeSort fun a b => decide (a.1 ≤ b.1)
  have hordered : Ascending ordered := by
    have hpairs : ordered.Pairwise fun a b => decide (a.1 ≤ b.1) = true := by
      refine List.pairwise_mergeSort (fun a b c hab hbc => ?_) (fun a b => ?_) _
      · simp only [decide_eq_true_eq] at hab hbc ⊢
        omega
      · simp only [Bool.or_eq_true, decide_eq_true_eq]
        omega
    exact hpairs.imp of_decide_eq_true
  obtain ⟨hascending, hcovers⟩ := coalesce_spec hordered
  have hmem (r : Nat × Nat) : r ∈ ordered ↔ r ∈ s ∧ r.1 ≤ r.2 := by
    rw [List.mem_mergeSort, List.mem_filter, decide_eq_true_eq]
  show (coalesce ordered).contains c = true ↔ s.Covers c
  rw [contains_iff_covers hascending, hcovers]
  constructor
  · rintro ⟨r, hr, hc⟩
    exact ⟨r, ((hmem r).1 hr).1, hc⟩
  · rintro ⟨r, hr, hc⟩
    exact ⟨r, (hmem r).2 ⟨hr, by omega⟩, hc⟩

end CodeIdioms.Text.Ranges
