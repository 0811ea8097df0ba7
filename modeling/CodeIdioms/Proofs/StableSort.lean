import CodeIdioms.Proofs.Filtering

/-! # Stable sorting

Merge sort is stable.  Here this is used in two forms: whatever relation holds between the elements
of a list in its order still holds between tied elements of the sorted list
(`pairwise_mergeSort`), and sorting commutes with leaving out elements (`filter_mergeSort`).  Both
rest on what sorting does with the head of a list: it is put before the first element that it may
stand before, and nothing else moves (`mergeSort_cons`). -/

namespace CodeIdioms.StableSort

variable {α : Type} {le : α → α → Bool} (trans : ∀ a b c, le a b → le b c → le a c)
  (total : ∀ a b, le a b || le b a)
include trans total

/-- Sorting puts the head of a list before the first element that it may stand before. -/
theorem mergeSort_cons (a : α) (l : List α) :
    ∃ l₁ l₂, (a :: l).mergeSort le = l₁ ++ a :: l₂ ∧ l.mergeSort le = l₁ ++ l₂
      ∧ (∀ b ∈ l₁, le a b = false) ∧ ∀ b ∈ l₂, le a b = true := by
  obtain ⟨l₁, l₂, hcons, hrest, hbefore⟩ := List.mergeSort_cons trans total a l
  have hsorted := List.pairwise_mergeSort trans total (a :: l)
  rw [hcons, List.pairwise_append, List.pairwise_cons] at hsorted
  obtain ⟨_, ⟨hafter, _⟩, _⟩ := hsorted
  exact ⟨l₁, l₂, hcons, hrest, fun b hb => by simpa using hbefore b hb, hafter⟩

/-- What held between the elements of a list in its order still holds between tied elements of the
sorted list in its order. -/
theorem pairwise_mergeSort {R : α → α → Prop} {l : List α} (h : l.Pairwise R) :
    (l.mergeSort le).Pairwise fun a b => le a b ∧ (le b a → R a b) := by
  induction l with
  | nil => simp
  | cons a l ih =>
    obtain ⟨ha, hl⟩ := List.pairwise_cons.1 h
    obtain ⟨l₁, l₂, hcons, hrest, hbefore, hafter⟩ := mergeSort_cons trans total a l
    have hmem : ∀ b ∈ l₂, b ∈ l := fun b hb =>
      List.mem_mergeSort.1 (hrest ▸ List.mem_append_right l₁ hb)
    have ih := ih hl
    rw [hrest, List.pairwise_append] at ih
    obtain ⟨h₁, h₂, h₁₂⟩ := ih
    rw [hcons, List.pairwise_append, List.pairwise_cons]
    -- the head is tied only with what comes after it, all of which it preceded before
    refine ⟨h₁, ⟨fun b hb => ⟨hafter b hb, fun _ => ha b (hmem b hb)⟩, h₂⟩, ?_⟩
    intro b hb c hc
    rcases List.mem_cons.1 hc with rfl | hc
    · have hcb := hbefore b hb
      refine ⟨by simpa [hcb] using total b c, fun hle => ?_⟩
      rw [hle] at hcb
      cases hcb
    · exact h₁₂ b hb c hc

/-- Sorting and leaving out elements commute. -/
theorem filter_mergeSort (p : α → Bool) (l : List α) :
    (l.mergeSort le).filter p = (l.filter p).mergeSort le := by
  induction l with
  | nil => simp
  | cons a l ih =>
    obtain ⟨l₁, l₂, hcons, hrest, hbefore, hafter⟩ := mergeSort_cons trans total a l
    rw [hrest, List.filter_append] at ih
    rw [hcons, List.filter_append]
    cases hp : p a with
    | false =>
      rw [List.filter_cons_of_neg (by simp [hp]), List.filter_cons_of_neg (by simp [hp]), ih]
    | true =>
      obtain ⟨m₁, m₂, hcons', hrest', hbefore', hafter'⟩ := mergeSort_cons trans total a (l.filter p)
      rw [hrest'] at ih
      obtain ⟨h₁, h₂⟩ := Filtering.filter_append_of_forall
        (fun b hb => hbefore b (List.mem_filter.1 hb).1) fun b hb => hafter b (List.mem_filter.1 hb).1
      obtain ⟨h₁', h₂'⟩ := Filtering.filter_append_of_forall hbefore' hafter'
      rw [ih] at h₁ h₂
      rw [List.filter_cons_of_pos hp, List.filter_cons_of_pos hp, hcons', ← h₁, ← h₂, h₁', h₂']

end CodeIdioms.StableSort
