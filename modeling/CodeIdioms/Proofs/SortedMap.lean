import CodeIdioms.SortedMap
import CodeIdioms.Proofs.Lookup
import Mathlib.Data.List.Nodup

/-! # What sorted maps hold

A sorted map is known by the values of its keys (`ext_get?`): every key has the value of the one
entry with that key (`get?_eq_some`), and updating a key changes the value of that key only
(`get?_update`).  Hence inserting entries with distinct keys gives the same map in any order
(`foldl_insert_perm`), inserting the entries of a map gives the map (`ofList_entries`), and a map of a
list has no entries but those of the list (`mem_of_mem_ofList`).  The entries before an entry of a map are those with smaller keys
(`mem_before_iff`), so the last entry that passes a test is the one with the greatest key
(`findRev?_entries_eq_some`). -/

namespace CodeIdioms.SortedMap

variable {β : Type}

/-! ### Entries and keys -/

theorem nodup_keys (m : SortedMap β) : (m.entries.map (·.1)).Nodup := by
  refine (List.pairwise_map.2 m.ascending).imp fun {a b} h hab => ?_
  exact String.lt_irrefl b (hab ▸ h)

/-- Where an entry stands in ascending entries, those before it have smaller keys. -/
theorem mem_before_iff {before after : List (String × β)} {x y : String × β}
    (h : Ascending (before ++ x :: after)) :
    y ∈ before ↔ y ∈ before ++ x :: after ∧ y.1 < x.1 := by
  obtain ⟨_, hx, hbefore⟩ := List.pairwise_append.1 h
  obtain ⟨hafter, _⟩ := List.pairwise_cons.1 hx
  constructor
  · intro hy
    exact ⟨List.mem_append_left _ hy, hbefore y hy x List.mem_cons_self⟩
  · rintro ⟨hy, hlt⟩
    rcases List.mem_append.1 hy with hy | hy
    · exact hy
    · rcases List.mem_cons.1 hy with rfl | hy
      · exact absurd hlt (String.lt_irrefl _)
      · exact absurd (String.lt_trans hlt (hafter y hy)) (String.lt_irrefl _)

/-- The last entry that passes a test is the one with the greatest key. -/
theorem findRev?_entries_eq_some {m : SortedMap β} {p : String × β → Bool} {x : String × β} :
    m.entries.findRev? p = some x ↔ x ∈ m.entries ∧ p x = true ∧
      ∀ y ∈ m.entries, p y = true → y.1 = x.1 ∨ y.1 < x.1 := by
  rw [List.findRev?_eq_find?_reverse, List.find?_eq_some_iff_append]
  constructor
  · rintro ⟨hx, after, before, hsplit, hafter⟩
    have hentries : m.entries = before.reverse ++ x :: after.reverse := by
      rw [List.reverse_eq_append_iff.1 hsplit, List.reverse_cons, List.append_assoc,
        List.singleton_append]
    refine ⟨hentries ▸ List.mem_append_cons_self, hx, fun y hy hpy => ?_⟩
    rcases List.mem_append.1 (hentries ▸ hy) with hy | hy
    · exact .inr ((mem_before_iff (hentries ▸ m.ascending)).1 hy).2
    · rcases List.mem_cons.1 hy with rfl | hy
      · exact .inl rfl
      · have hnot := hafter y (List.mem_reverse.1 hy)
        rw [hpy] at hnot
        cases hnot
  · rintro ⟨hmem, hx, hgreatest⟩
    obtain ⟨before, after, hentries⟩ := List.append_of_mem hmem
    refine ⟨hx, after.reverse, before.reverse, ?_, fun y hy => ?_⟩
    · rw [hentries, List.reverse_append, List.reverse_cons, List.append_assoc,
        List.singleton_append]
    · have hafter : y ∈ after := List.mem_reverse.1 hy
      have hlt : x.1 < y.1 := by
        have hascending : Ascending (before ++ x :: after) := hentries ▸ m.ascending
        exact (List.pairwise_cons.1 (List.pairwise_append.1 hascending).2.1).1 y hafter
      rw [Bool.not_eq_true', Bool.eq_false_iff]
      intro hpy
      have hy' : y ∈ m.entries := hentries ▸ List.mem_append_right _ (List.mem_cons_of_mem _ hafter)
      rcases hgreatest y hy' hpy with heq | hgt
      · exact String.lt_irrefl _ (heq ▸ hlt)
      · exact String.lt_irrefl _ (String.lt_trans hlt hgt)

theorem findRev?_entries_eq_none {m : SortedMap β} {p : String × β → Bool} :
    m.entries.findRev? p = none ↔ ∀ x ∈ m.entries, ¬ p x = true := by
  rw [List.findRev?_eq_find?_reverse, List.find?_eq_none]
  simp only [List.mem_reverse]

/-! ### Values -/

theorem get?_eq_some {m : SortedMap β} {k : String} {v : β} :
    m.get? k = some v ↔ (k, v) ∈ m.entries := by
  have hmem : (k, v) ∈ m.entries ↔ (k, v) ∈ m.entries.filter fun e => e.1 == k := by
    simp [List.mem_filter]
  unfold get?
  rw [hmem, Lookup.filter_eq_toList_find? m.nodup_keys k, Option.mem_toList, Option.map_eq_some_iff]
  constructor
  · rintro ⟨e, he, rfl⟩
    have hk : e.1 = k := by simpa using List.find?_some he
    rw [he, ← hk]
  · intro h
    exact ⟨_, h, rfl⟩

/-- Maps with the same value for every key are the same. -/
theorem ext_get? {m m' : SortedMap β} (h : ∀ k, m.get? k = m'.get? k) : m = m' := by
  have hnodup (m : SortedMap β) : m.entries.Nodup := List.Nodup.of_map (·.1) m.nodup_keys
  have hperm : m.entries.Perm m'.entries := by
    rw [List.perm_ext_iff_of_nodup (hnodup m) (hnodup m')]
    rintro ⟨k, v⟩
    rw [← get?_eq_some, ← get?_eq_some, h]
  have hentries : m.entries = m'.entries := by
    refine hperm.eq_of_pairwise (fun a b _ _ hab hba => ?_) m.ascending m'.ascending
    exact absurd (String.lt_trans hab hba) (String.lt_irrefl _)
  cases m
  cases m'
  cases hentries
  rfl

/-- The value of a key among entries. -/
def valueIn (k : String) (es : List (String × β)) : Option β := (es.find? (·.1 == k)).map (·.2)

theorem valueIn_cons (k : String) (e : String × β) (es : List (String × β)) :
    valueIn k (e :: es) = if e.1 = k then some e.2 else valueIn k es := by
  unfold valueIn
  rw [List.find?_cons]
  by_cases h : e.1 = k
  · rw [if_pos h, beq_iff_eq.2 h]
    rfl
  · rw [if_neg h, beq_eq_false_iff_ne.2 h]

theorem valueIn_eq_none_of_lt {k : String} {es : List (String × β)} (h : ∀ e ∈ es, k < e.1) :
    valueIn k es = none := by
  induction es with
  | nil => rfl
  | cons e es ih =>
    obtain ⟨he, hes⟩ := List.forall_mem_cons.1 h
    have hne : e.1 ≠ k := fun heq => String.lt_irrefl k (heq ▸ he)
    rw [valueIn_cons, if_neg hne, ih hes]

theorem valueIn_eq_none_of_not_mem {k : String} {es : List (String × β)}
    (h : k ∉ es.map (·.1)) : valueIn k es = none := by
  unfold valueIn
  rw [Option.map_eq_none_iff, List.find?_eq_none]
  intro e he hk
  exact h (List.mem_map.2 ⟨e, he, beq_iff_eq.1 hk⟩)

theorem valueIn_updated {k : String} {f : Option β → β} {es : List (String × β)} (h : Ascending es)
    (k' : String) : valueIn k' (updated k f es)
      = if k = k' then some (f (valueIn k es)) else valueIn k' es := by
  induction es with
  | nil => exact valueIn_cons k' (k, f none) []
  | cons e es ih =>
    obtain ⟨hlt, hes⟩ := List.pairwise_cons.1 h
    unfold updated
    by_cases hk : k < e.1
    · have hnone : valueIn k (e :: es) = none := by
        refine valueIn_eq_none_of_lt (List.forall_mem_cons.2 ⟨hk, fun x hx => ?_⟩)
        exact String.lt_trans hk (hlt x hx)
      rw [if_pos hk, valueIn_cons, hnone]
    · rw [if_neg hk]
      by_cases he : k = e.1
      · rw [if_pos he, valueIn_cons, valueIn_cons, valueIn_cons, he, if_pos rfl]
        split <;> rfl
      · rw [if_neg he, valueIn_cons, valueIn_cons, valueIn_cons, ih hes, if_neg (Ne.symm he)]
        by_cases hk' : e.1 = k'
        · rw [if_pos hk', if_pos hk', if_neg fun h => he (h.trans hk'.symm)]
        · rw [if_neg hk', if_neg hk']

theorem get?_update (m : SortedMap β) (k : String) (f : Option β → β) (k' : String) :
    (m.update k f).get? k' = if k = k' then some (f (m.get? k)) else m.get? k' :=
  valueIn_updated m.ascending k'

theorem get?_insert (m : SortedMap β) (k : String) (v : β) (k' : String) :
    (m.insert k v).get? k' = if k = k' then some v else m.get? k' :=
  get?_update m k (fun _ => v) k'

/-! ### Maps of lists -/

theorem eq_or_mem_of_mem_insert {m : SortedMap β} {k : String} {v : β} {e : String × β}
    (h : e ∈ (m.insert k v).entries) : e = (k, v) ∨ e ∈ m.entries := by
  obtain ⟨k', v'⟩ := e
  rw [← get?_eq_some, get?_insert] at h
  by_cases hk : k = k'
  · rw [if_pos hk, Option.some.injEq] at h
    exact .inl (by rw [hk, h])
  · rw [if_neg hk, get?_eq_some] at h
    exact .inr h

theorem mem_of_mem_ofList {es : List (String × β)} {e : String × β}
    (h : e ∈ (ofList es).entries) : e ∈ es := by
  suffices hfold : ∀ m : SortedMap β,
      e ∈ (es.foldl (fun m x => m.insert x.1 x.2) m).entries → e ∈ es ∨ e ∈ m.entries from
    (hfold empty h).resolve_right List.not_mem_nil
  clear h
  induction es with
  | nil => exact fun m h => .inr h
  | cons x es ih =>
    intro m h
    obtain hlater | hinsert := ih (m.insert x.1 x.2) h
    · exact .inl (List.mem_cons_of_mem x hlater)
    · obtain rfl | hbefore := eq_or_mem_of_mem_insert hinsert
      · exact .inl List.mem_cons_self
      · exact .inr hbefore

theorem insert_comm (m : SortedMap β) {k k' : String} (h : k ≠ k') (v v' : β) :
    (m.insert k v).insert k' v' = (m.insert k' v').insert k v := by
  refine ext_get? fun x => ?_
  rw [get?_insert, get?_insert, get?_insert, get?_insert]
  by_cases hx : k = x
  · rw [if_pos hx, if_pos hx, if_neg fun hx' => h (hx.trans hx'.symm)]
  · rw [if_neg hx, if_neg hx]

/-- Entries with distinct keys make the same map in any order. -/
theorem foldl_insert_perm {es es' : List (String × β)} (hperm : es.Perm es')
    (h : (es.map (·.1)).Nodup) (m : SortedMap β) :
    es.foldl (fun m e => m.insert e.1 e.2) m = es'.foldl (fun m e => m.insert e.1 e.2) m := by
  refine hperm.foldl_eq' (fun a ha b hb m => ?_) m
  by_cases hab : a.1 = b.1
  · obtain rfl : a = b := List.inj_on_of_nodup_map h ha hb hab
    rfl
  · exact insert_comm m hab a.2 b.2

theorem get?_foldl_insert {es : List (String × β)} (h : (es.map (·.1)).Nodup) (m : SortedMap β)
    (k : String) :
    (es.foldl (fun m e => m.insert e.1 e.2) m).get? k = (valueIn k es).or (m.get? k) := by
  induction es generalizing m with
  | nil => rfl
  | cons e es ih =>
    obtain ⟨he, hes⟩ := List.nodup_cons.1 h
    rw [List.foldl_cons, ih hes, get?_insert, valueIn_cons]
    by_cases hk : e.1 = k
    · rw [if_pos hk, if_pos hk, valueIn_eq_none_of_not_mem (hk ▸ he), Option.none_or,
        Option.some_or]
    · rw [if_neg hk, if_neg hk]

/-- A map is made of its entries. -/
theorem ofList_entries (m : SortedMap β) : ofList m.entries = m := by
  refine ext_get? fun k => ?_
  show (m.entries.foldl (fun m e => m.insert e.1 e.2) empty).get? k = _
  rw [get?_foldl_insert m.nodup_keys]
  exact Option.or_none

end CodeIdioms.SortedMap
