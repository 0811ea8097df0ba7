import Mathlib

/-! # Splitting lists by keys

Every element of a list has one key, so the lists of the elements of every key split the list
(`splits_filter`).  One after the other, in any order of the keys, they are a rearrangement of it
(`flatMap_filter_perm`), which is sorted by the keys and, for one key, in the order of the list
(`pairwise_flatMap_filter`). -/

namespace CodeIdioms

/-- Lists by keys split a list: they are sublists of it, every element is in the list of exactly one
key, and together they have the same elements, each as often as the list has it. -/
structure Splits {α κ : Type} (keys : List κ) (part : κ → List α) (whole : List α) : Prop where
  sublist (k : κ) : (part k).Sublist whole
  unique : ∀ a ∈ whole, ∃! k, a ∈ part k
  perm : (keys.flatMap part).Perm whole

/-- The lengths of the parts add up to the length of the list. -/
theorem Splits.sum_length {α κ : Type} {keys : List κ} {part : κ → List α} {whole : List α}
    (h : Splits keys part whole) : (keys.map fun k => (part k).length).sum = whole.length := by
  have hlength := h.perm.length_eq
  rw [List.length_flatMap] at hlength
  exact hlength

section
variable {α κ : Type} [DecidableEq κ]

/-- Every element stands in the list of its own key. -/
theorem flatMap_singleton_of_mem {keys : List κ} (hnodup : keys.Nodup) {k : κ} (hk : k ∈ keys)
    (a : α) : (keys.flatMap fun k' => if k = k' then [a] else []) = [a] := by
  induction keys with
  | nil => exact absurd hk List.not_mem_nil
  | cons k' keys ih =>
    obtain ⟨hnot, hkeys⟩ := List.nodup_cons.1 hnodup
    rw [List.flatMap_cons]
    by_cases h : k = k'
    · subst h
      have hrest : (keys.flatMap fun k' => if k = k' then [a] else []) = [] := by
        rw [List.flatMap_eq_nil_iff]
        intro k' hk'
        have hne : k ≠ k' := fun heq => hnot (heq ▸ hk')
        simp [hne]
      simp [hrest]
    · have hmem : k ∈ keys := (List.mem_cons.1 hk).resolve_left h
      simp [h, ih hkeys hmem]

/-- What passes a filter by one of all keys, for every key, is everything. -/
theorem flatMap_filter_perm {keys : List κ} (hnodup : keys.Nodup) (hall : ∀ k, k ∈ keys)
    (key : α → κ) (l : List α) : (keys.flatMap fun k => l.filter (key · == k)).Perm l := by
  induction l with
  | nil => simp
  | cons a l ih =>
    have hsplit : (keys.flatMap fun k => (a :: l).filter (key · == k))
        = keys.flatMap fun k => (if key a = k then [a] else []) ++ l.filter (key · == k) := by
      apply List.flatMap_congr
      intro k _
      by_cases h : key a = k <;> simp [h]
    have hhead := flatMap_singleton_of_mem hnodup (hall (key a)) a
    rw [hsplit]
    calc (keys.flatMap fun k => (if key a = k then [a] else []) ++ l.filter (key · == k))
        |>.Perm ((keys.flatMap fun k => if key a = k then [a] else [])
          ++ keys.flatMap fun k => l.filter (key · == k)) :=
          (List.flatMap_append_perm keys _ _).symm
      _ |>.Perm (a :: l) := by
          rw [hhead]
          exact ih.cons a

theorem splits_filter {keys : List κ} (hnodup : keys.Nodup) (hall : ∀ k, k ∈ keys) (key : α → κ)
    (l : List α) : Splits keys (fun k => l.filter (key · == k)) l where
  sublist k := List.filter_sublist
  unique a ha := by
    refine ⟨key a, by simp [ha], ?_⟩
    intro k hk
    exact (beq_iff_eq.1 (List.mem_filter.1 hk).2).symm
  perm := flatMap_filter_perm hnodup hall key l

/-- The elements of every key, one key after the other: sorted by the keys, and the elements of one
key by what sorts the list. -/
theorem pairwise_flatMap_filter {keys : List κ} {rank : κ → Nat}
    (hkeys : keys.Pairwise fun k k' => rank k < rank k') (key : α → κ) {R : α → α → Prop}
    {l : List α} (hl : l.Pairwise R) :
    (keys.flatMap fun k => l.filter (key · == k)).Pairwise fun a b =>
      rank (key a) < rank (key b) ∨ rank (key a) = rank (key b) ∧ R a b := by
  rw [List.pairwise_flatMap]
  constructor
  · intro k _
    apply (hl.filter (key · == k)).imp_of_mem
    intro a b ha hb hab
    have hka := beq_iff_eq.1 (List.mem_filter.1 ha).2
    have hkb := beq_iff_eq.1 (List.mem_filter.1 hb).2
    exact .inr ⟨by rw [hka, hkb], hab⟩
  · apply hkeys.imp
    intro k k' hlt a ha b hb
    have hka := beq_iff_eq.1 (List.mem_filter.1 ha).2
    have hkb := beq_iff_eq.1 (List.mem_filter.1 hb).2
    exact .inl (by rw [hka, hkb]; exact hlt)

end

end CodeIdioms
