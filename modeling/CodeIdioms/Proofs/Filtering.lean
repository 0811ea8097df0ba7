import Mathlib.Data.List.Basic

/-! # Filtering

What keeping the elements that pass a test does to a list: after a selection (`filter_filterMap_eq`),
to a list in which the test tells two parts apart (`filter_append_of_forall`), and to a sorted list
in which whatever comes before an element that passes it passes it too (`filter_prefix`). -/

namespace CodeIdioms.Filtering

/-- Selecting from the kept elements is keeping from what is selected, when the tests agree. -/
theorem filter_filterMap_eq {α β : Type} {g : α → Option β} {q : α → Bool} {q' : β → Bool}
    (h : ∀ a b, g a = some b → q' b = q a) (l : List α) :
    (l.filterMap g).filter q' = (l.filter q).filterMap g := by
  rw [List.filter_filterMap, List.filterMap_filter]
  apply List.filterMap_congr
  intro a _
  cases hg : g a with
  | none => simp
  | some b =>
    rw [Option.filter_some, h a b hg]

variable {α : Type}

/-- Elements that fail a test, followed by elements that pass it, are told apart by the test. -/
theorem filter_append_of_forall {q : α → Bool} {l₁ l₂ : List α} (h₁ : ∀ b ∈ l₁, q b = false)
    (h₂ : ∀ b ∈ l₂, q b = true) :
    (l₁ ++ l₂).filter (fun b => !q b) = l₁ ∧ (l₁ ++ l₂).filter q = l₂ := by
  constructor
  · rw [List.filter_append, List.filter_eq_self.2 fun b hb => by rw [h₁ b hb]; rfl,
      List.filter_eq_nil_iff.2 fun b hb => by rw [h₂ b hb]; decide, List.append_nil]
  · rw [List.filter_append, List.filter_eq_nil_iff.2 fun b hb => by rw [h₁ b hb]; decide,
      List.filter_eq_self.2 h₂, List.nil_append]

/-- In a sorted list, the elements that pass a test come first if whatever comes before one of
them passes it too. -/
theorem filter_prefix {R : α → α → Prop} {p : α → Bool} {l : List α} (h : l.Pairwise R)
    (hp : ∀ a b, a ∈ l → b ∈ l → R a b → p b = true → p a = true) : l.filter p <+: l := by
  induction l with
  | nil => simp
  | cons a l ih =>
    obtain ⟨ha, hl⟩ := List.pairwise_cons.1 h
    cases hpa : p a with
    | true =>
      rw [List.filter_cons_of_pos hpa, List.prefix_cons_inj]
      exact ih hl fun b c hb hc => hp b c (List.mem_cons_of_mem a hb) (List.mem_cons_of_mem a hc)
    | false =>
      have hnil : l.filter p = [] := by
        rw [List.filter_eq_nil_iff]
        intro b hb hpb
        rw [hp a b List.mem_cons_self (List.mem_cons_of_mem a hb) (ha b hb) hpb] at hpa
        cases hpa
      rw [List.filter_cons_of_neg (by simp [hpa]), hnil]
      exact List.nil_prefix

end CodeIdioms.Filtering
