/-! # Looking up

A search of a list finds the first element that passes a test (`find?_eq_some_iff`).  Where elements
have distinct keys, the search for a key tells all about the elements that have it: they are the one
that it finds (`filter_eq_toList_find?`). -/

namespace CodeIdioms.Lookup

variable {α : Type}

/-- An element of a list has a property that no element before it has. -/
inductive First (P : α → Prop) (l : List α) (a : α) : Prop
  | intro {before after : List α} (split : l = before ++ a :: after)
      (none_before : ∀ b ∈ before, ¬ P b) (here : P a)

theorem First.found {P : α → Prop} {l : List α} {a : α} (h : First P l a) : P a := by
  obtain ⟨_, _, ha⟩ := h
  exact ha

theorem First.mem {P : α → Prop} {l : List α} {a : α} (h : First P l a) : a ∈ l := by
  obtain ⟨split, _, _⟩ := h
  exact split ▸ List.mem_append_cons_self

theorem first_cons_iff {P : α → Prop} {b : α} {l : List α} {a : α} :
    First P (b :: l) a ↔ (P b ∧ a = b) ∨ (¬ P b ∧ First P l a) := by
  constructor
  · intro h
    obtain @⟨before, after, split, hbefore, ha⟩ := h
    cases before with
    | nil =>
      obtain ⟨rfl, -⟩ := List.cons.inj split
      exact .inl ⟨ha, rfl⟩
    | cons b' before =>
      obtain ⟨rfl, hl⟩ := List.cons.inj split
      obtain ⟨hb, hbefore⟩ := List.forall_mem_cons.1 hbefore
      exact .inr ⟨hb, .intro hl hbefore ha⟩
  · rintro (⟨hb, rfl⟩ | ⟨hb, split, hbefore, ha⟩)
    · exact .intro (List.nil_append _).symm nofun hb
    · exact .intro (congrArg (b :: ·) split) (List.forall_mem_cons.2 ⟨hb, hbefore⟩) ha

theorem find?_eq_some_iff {p : α → Bool} {P : α → Prop} (hp : ∀ a, p a = true ↔ P a) {l : List α}
    {a : α} : l.find? p = some a ↔ First P l a := by
  have hnot : ∀ b, (!p b) = true ↔ ¬ P b := fun b => by rw [← hp, Bool.not_eq_true']; simp
  rw [List.find?_eq_some_iff_append]
  simp only [hp, hnot]
  constructor
  · rintro ⟨ha, before, after, split, hbefore⟩
    exact .intro split hbefore ha
  · rintro ⟨split, hbefore, ha⟩
    exact ⟨ha, _, _, split, hbefore⟩

theorem exists_first {P : α → Prop} {l : List α} {a : α} (ha : a ∈ l) (h : P a) :
    ∃ b, First P l b := by
  classical
  have hsome : (l.find? fun b => decide (P b)).isSome = true :=
    List.find?_isSome.2 ⟨a, ha, decide_eq_true h⟩
  obtain ⟨b, hb⟩ := Option.isSome_iff_exists.1 hsome
  exact ⟨b, (find?_eq_some_iff fun _ => decide_eq_true_iff).1 hb⟩

theorem find?_eq_none_iff {p : α → Bool} {P : α → Prop} (hp : ∀ a, p a = true ↔ P a) {l : List α} :
    l.find? p = none ↔ ∀ a ∈ l, ¬ P a := by
  rw [List.find?_eq_none]
  simp only [hp]

/-- With distinct keys, the elements of a key are the one that a search for the key finds. -/
theorem filter_eq_toList_find? {key : α → String} {l : List α} (h : (l.map key).Nodup) (k : String) :
    l.filter (fun a => key a == k) = (l.find? fun a => key a == k).toList := by
  induction l with
  | nil => rfl
  | cons a l ih =>
    obtain ⟨ha, hl⟩ := List.nodup_cons.1 h
    by_cases hk : key a = k
    · have hnone : l.filter (fun b => key b == k) = [] := by
        refine List.filter_eq_nil_iff.2 fun b hb hbk => ha ?_
        exact List.mem_map.2 ⟨b, hb, (beq_iff_eq.1 hbk).trans hk.symm⟩
      simp [hk, hnone]
    · simp [hk, ih hl]

end CodeIdioms.Lookup
