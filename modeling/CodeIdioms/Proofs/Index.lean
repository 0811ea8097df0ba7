import CodeIdioms.Proofs.SortedMap
import Mathlib

/-! # Lists with distinct keys, and their index

A list whose elements must have distinct keys is checked from its front: an element is at fault by
itself, or because its key is among those before it.  Such a search reports a fault if and only if
there is one (`firstFault?_eq_none`), and then that of the first element at fault
(`firstFault?_eq_some`).

A pass that takes the elements one by one into a list with an index, which has the position of every
key, stops at that same fault (`takeAll_of_fault`).  Every element that it takes leaves the index in
step with the list (`inStep_push`), and so does a whole pass (`takeAll_of_none`); then the index
finds what a search of the list finds (`get?_eq_find?`). -/

namespace CodeIdioms

variable {α ε : Type} (key : α → String) (refuse : α → Option ε) (taken : α → ε)

/-! ### The first fault -/

/-- The fault of an element after some keys: an element that is refused by itself is at fault for
that even when its key is taken too. -/
def fault? (seen : List String) (a : α) : Option ε :=
  (refuse a).or (if key a ∈ seen then some (taken a) else none)

/-- The first fault of a list after some keys. -/
def firstFault? (seen : List String) : List α → Option ε
  | [] => none
  | a :: l => (fault? key refuse taken seen a).or (firstFault? (key a :: seen) l)

section
variable {key refuse taken} {seen : List String} {l : List α}

theorem fault?_eq_none {a : α} :
    fault? key refuse taken seen a = none ↔ refuse a = none ∧ key a ∉ seen := by
  unfold fault?
  rw [Option.or_eq_none_iff]
  simp

theorem fault?_eq_some {a : α} {e : ε} : fault? key refuse taken seen a = some e
    ↔ refuse a = some e ∨ refuse a = none ∧ key a ∈ seen ∧ taken a = e := by
  unfold fault?
  rw [Option.or_eq_some_iff]
  simp

/-- A list is without fault if and only if no element is refused and all keys are new. -/
theorem firstFault?_eq_none : firstFault? key refuse taken seen l = none
    ↔ (∀ a ∈ l, refuse a = none) ∧ (l.map key).Nodup ∧ ∀ a ∈ l, key a ∉ seen := by
  induction l generalizing seen with
  | nil => simp [firstFault?]
  | cons a l ih =>
    unfold firstFault?
    rw [Option.or_eq_none_iff, fault?_eq_none, ih, List.map_cons, List.nodup_cons,
      List.forall_mem_cons, List.forall_mem_cons]
    simp only [List.mem_cons, not_or, List.mem_map, not_exists, not_and]
    constructor
    · rintro ⟨⟨ha, hseen⟩, hrefuse, hnodup, hl⟩
      exact ⟨⟨ha, hrefuse⟩, ⟨fun b hb => (hl b hb).1, hnodup⟩, hseen, fun b hb => (hl b hb).2⟩
    · rintro ⟨⟨ha, hrefuse⟩, ⟨hkey, hnodup⟩, hseen, hl⟩
      exact ⟨⟨ha, hseen⟩, hrefuse, hnodup, fun b hb => ⟨hkey b hb, hl b hb⟩⟩

/-- A fault of a list is that of an element with no fault before it. -/
theorem firstFault?_eq_some {e : ε} : firstFault? key refuse taken seen l = some e
    ↔ ∃ before a after, l = before ++ a :: after ∧ firstFault? key refuse taken seen before = none ∧
      (refuse a = some e ∨
        refuse a = none ∧ (key a ∈ before.map key ∨ key a ∈ seen) ∧ taken a = e) := by
  induction l generalizing seen with
  | nil => simp [firstFault?]
  | cons a l ih =>
    rw [firstFault?, Option.or_eq_some_iff, ih]
    constructor
    · rintro (ha | ⟨ha, before, b, after, rfl, hbefore, hb⟩)
      · refine ⟨[], a, l, rfl, rfl, ?_⟩
        simpa using fault?_eq_some.1 ha
      · refine ⟨a :: before, b, after, rfl, ?_, ?_⟩
        · rw [firstFault?, ha, hbefore]
          rfl
        · simpa [or_assoc, or_left_comm] using hb
    · rintro ⟨_ | ⟨a', before⟩, b, after, heq, hbefore, hb⟩
      · obtain ⟨rfl, rfl⟩ := List.cons.inj heq
        exact .inl (fault?_eq_some.2 (by simpa using hb))
      · obtain ⟨rfl, rfl⟩ := List.cons.inj heq
        obtain ⟨ha, hbefore⟩ := Option.or_eq_none_iff.1 hbefore
        refine .inr ⟨ha, before, b, after, rfl, hbefore, ?_⟩
        simpa [or_assoc, or_left_comm] using hb

end

/-! ### The index -/

/-- A list with the position of every key. -/
structure Index (α : Type) where
  items : List α := []
  positions : SortedMap Nat := SortedMap.empty

namespace Index

/-- The element of a key. -/
def get? (x : Index α) (k : String) : Option α := (x.positions.get? k).bind (x.items[·]?)

/-- The list with an element at its end, and with the position of its key. -/
def push (x : Index α) (a : α) : Index α :=
  { items := x.items ++ [a], positions := x.positions.insert (key a) x.items.length }

/-- Takes an element at the end, unless it is refused or its key has a position. -/
def take (x : Index α) (a : α) : Except ε (Index α) :=
  match refuse a with
  | some e => .error e
  | none => if (x.positions.get? (key a)).isSome then .error (taken a) else .ok (x.push key a)

/-- Takes elements one after the other. -/
def takeAll : Index α → List α → Except ε (Index α)
  | x, [] => .ok x
  | x, a :: l => (x.take key refuse taken a).bind (takeAll · l)

/-- An index is in step with its list: its positions are those of the keys, which are the keys seen
so far. -/
structure InStep (x : Index α) (seen : List String) : Prop where
  position_iff (k : String) (i : Nat) :
    x.positions.get? k = some i ↔ (x.items.map key)[i]? = some k
  mem_iff (k : String) : k ∈ seen ↔ k ∈ x.items.map key

variable {key refuse taken} {x : Index α} {seen : List String}

theorem inStep_empty : InStep key ({} : Index α) [] where
  position_iff k i := by simp [SortedMap.get?, SortedMap.empty]
  mem_iff k := by simp

theorem isSome_position (h : x.InStep key seen) (k : String) :
    (x.positions.get? k).isSome = true ↔ k ∈ seen := by
  rw [h.mem_iff, Option.isSome_iff_exists, List.mem_iff_getElem?]
  exact exists_congr (h.position_iff k)

theorem nodup_keys (h : x.InStep key seen) : (x.items.map key).Nodup := by
  rw [List.nodup_iff_getElem?_ne_getElem?]
  intro i j hij hj heq
  have hkey := List.getElem?_eq_getElem hj
  have hi := (h.position_iff _ i).2 (heq.trans hkey)
  rw [(h.position_iff _ j).2 hkey, Option.some.injEq] at hi
  omega

/-- The index finds what a search of the list finds. -/
theorem get?_eq_find? (h : x.InStep key seen) (k : String) :
    x.get? k = x.items.find? fun a => key a == k := by
  unfold get?
  cases hk : x.positions.get? k with
  | none =>
    have hnone : k ∉ x.items.map key := by
      rw [← h.mem_iff, ← isSome_position h, hk]
      simp
    refine (List.find?_eq_none.2 fun a ha hak => hnone ?_).symm
    exact List.mem_map.2 ⟨a, ha, beq_iff_eq.1 hak⟩
  | some i =>
    have hi := (h.position_iff k i).1 hk
    rw [List.getElem?_map, Option.map_eq_some_iff] at hi
    obtain ⟨a, ha, rfl⟩ := hi
    have hmem : a ∈ x.items.filter fun b => key b == key a :=
      List.mem_filter.2 ⟨List.mem_of_getElem? ha, beq_self_eq_true _⟩
    rw [Lookup.filter_eq_toList_find? (nodup_keys h), Option.mem_toList] at hmem
    exact ha.trans hmem.symm

theorem getElem?_concat (ks : List String) (k : String) (i : Nat) :
    (ks ++ [k])[i]? = if i = ks.length then some k else ks[i]? := by
  grind

/-- An element with a new key leaves the index in step. -/
theorem inStep_push (h : x.InStep key seen) {a : α} (hnew : key a ∉ seen) :
    (x.push key a).InStep key (key a :: seen) where
  position_iff k i := by
    rw [h.mem_iff] at hnew
    unfold push
    rw [SortedMap.get?_insert, List.map_append, List.map_singleton, getElem?_concat,
      List.length_map]
    by_cases hk : key a = k
    · -- the new key has no position but the last
      have hother : (x.items.map key)[i]? ≠ some k := fun hi => hnew (hk ▸ List.mem_of_getElem? hi)
      by_cases hi : i = x.items.length
      · simp [hk, hi]
      · simp only [if_pos hk, if_neg hi, Option.some.injEq]
        exact ⟨fun hlength => absurd hlength.symm hi, fun hsome => absurd hsome hother⟩
    · rw [if_neg hk, h.position_iff]
      by_cases hi : i = x.items.length
      · simp [hk, hi]
      · rw [if_neg hi]
  mem_iff k := by simp [push, h.mem_iff, or_comm]

/-! ### A pass -/

theorem take_of_fault {a : α} {e : ε} (h : x.InStep key seen)
    (he : fault? key refuse taken seen a = some e) : x.take key refuse taken a = .error e := by
  unfold take
  obtain ha | ⟨ha, hmem, rfl⟩ := fault?_eq_some.1 he
  · rw [ha]
  · rw [ha]
    exact if_pos ((isSome_position h _).2 hmem)

theorem take_of_none {a : α} (h : x.InStep key seen)
    (hnone : fault? key refuse taken seen a = none) :
    x.take key refuse taken a = .ok (x.push key a) ∧
      (x.push key a).InStep key (key a :: seen) := by
  obtain ⟨ha, hmem⟩ := fault?_eq_none.1 hnone
  refine ⟨?_, inStep_push h hmem⟩
  unfold take
  rw [ha]
  exact if_neg fun hsome => hmem ((isSome_position h _).1 hsome)

/-- A pass stops at the first fault. -/
theorem takeAll_of_fault {l : List α} {e : ε} (h : x.InStep key seen)
    (he : firstFault? key refuse taken seen l = some e) :
    x.takeAll key refuse taken l = .error e := by
  induction l generalizing x seen with
  | nil => cases he
  | cons a l ih =>
    unfold takeAll
    obtain ha | ⟨ha, hl⟩ := Option.or_eq_some_iff.1 he
    · rw [take_of_fault h ha]
      rfl
    · obtain ⟨htake, hstep⟩ := take_of_none h ha
      rw [htake]
      exact ih hstep hl

/-- A pass without a fault takes the whole list, with the index in step. -/
theorem takeAll_of_none {l : List α} (h : x.InStep key seen)
    (hnone : firstFault? key refuse taken seen l = none) :
    ∃ y seen', x.takeAll key refuse taken l = .ok y ∧ y.items = x.items ++ l ∧
      y.InStep key seen' := by
  induction l generalizing x seen with
  | nil => exact ⟨x, seen, rfl, (List.append_nil _).symm, h⟩
  | cons a l ih =>
    unfold takeAll
    obtain ⟨ha, hl⟩ := Option.or_eq_none_iff.1 hnone
    obtain ⟨htake, hstep⟩ := take_of_none h ha
    obtain ⟨y, seen', hy, hitems, hy'⟩ := ih hstep hl
    refine ⟨y, seen', ?_, ?_, hy'⟩
    · rw [htake]
      exact hy
    · rw [hitems]
      exact (List.append_cons ..).symm

end Index

end CodeIdioms
