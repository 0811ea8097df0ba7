/-! # Finite maps with sorted keys

A map from strings keeps its entries in ascending order of keys, by code points, with no key
twice.  Two maps with the same entries are therefore equal, and listing a map shows the order in
which its keys are visited. -/

namespace CodeIdioms

/-- Entries whose keys ascend strictly. -/
def Ascending {β : Type} (es : List (String × β)) : Prop := es.Pairwise fun a b => a.1 < b.1

/-- Maps from strings. -/
structure SortedMap (β : Type) where
  entries : List (String × β)
  ascending : Ascending entries

namespace SortedMap

variable {β : Type}

instance [Repr β] : Repr (SortedMap β) := ⟨fun m n => reprPrec m.entries n⟩

instance [DecidableEq β] : DecidableEq (SortedMap β) := fun a b =>
  if h : a.entries = b.entries then
    isTrue (by cases a; cases b; cases h; rfl)
  else isFalse fun e => h (e ▸ rfl)

/-- The map with no keys. -/
def empty : SortedMap β := ⟨[], List.Pairwise.nil⟩

instance : Inhabited (SortedMap β) := ⟨empty⟩

/-- Entries with the value of one key replaced or added. -/
def updated (k : String) (f : Option β → β) : List (String × β) → List (String × β)
  | [] => [(k, f none)]
  | e :: es =>
    if k < e.1 then (k, f none) :: e :: es
    else if k = e.1 then (k, f (some e.2)) :: es
    else e :: updated k f es

theorem fst_mem_updated {k : String} {f : Option β → β} {es : List (String × β)} {e : String × β}
    (h : e ∈ updated k f es) : e.1 = k ∨ e ∈ es := by
  induction es with
  | nil => simp only [updated, List.mem_singleton] at h; exact Or.inl (h ▸ rfl)
  | cons a as ih =>
    simp only [updated] at h
    split at h
    · rcases List.mem_cons.1 h with rfl | h
      · exact Or.inl rfl
      · exact Or.inr h
    · split at h
      · rcases List.mem_cons.1 h with rfl | h
        · exact Or.inl rfl
        · exact Or.inr (List.mem_cons_of_mem _ h)
      · rcases List.mem_cons.1 h with rfl | h
        · exact Or.inr List.mem_cons_self
        · exact (ih h).imp_right (List.mem_cons_of_mem _)

theorem ascending_updated {k : String} {f : Option β → β} {es : List (String × β)}
    (h : Ascending es) : Ascending (updated k f es) := by
  induction es with
  | nil => exact List.pairwise_singleton _ _
  | cons a as ih =>
    obtain ⟨hlt, has⟩ := List.pairwise_cons.1 h
    simp only [updated]
    split
    · next hk =>
      refine List.pairwise_cons.2 ⟨fun e he => ?_, h⟩
      rcases List.mem_cons.1 he with rfl | he
      · exact hk
      · exact String.lt_trans hk (hlt e he)
    · next hk =>
      split
      · next heq =>
        subst heq
        exact List.pairwise_cons.2 ⟨hlt, has⟩
      · next hne =>
        refine List.pairwise_cons.2 ⟨fun e he => ?_, ih has⟩
        rcases fst_mem_updated he with he | he
        · rw [he]
          rcases String.le_total a.1 k with hle | hle
          · exact String.not_le.1 fun h' => hne (String.le_antisymm h' hle)
          · exact absurd (String.not_le.1 fun h' => hne (String.le_antisymm hle h')) hk
        · exact hlt e he

/-- The map with the value of one key replaced or added. -/
def update (m : SortedMap β) (k : String) (f : Option β → β) : SortedMap β :=
  ⟨updated k f m.entries, ascending_updated m.ascending⟩

/-- The map with one entry replaced or added. -/
def insert (m : SortedMap β) (k : String) (v : β) : SortedMap β := m.update k fun _ => v

/-- The map of a list of entries, of which later ones replace earlier ones. -/
def ofList (es : List (String × β)) : SortedMap β := es.foldl (fun m e => m.insert e.1 e.2) empty

/-- The value of a key. -/
def get? (m : SortedMap β) (k : String) : Option β := (m.entries.find? (·.1 == k)).map (·.2)

/-- Whether a key is present. -/
def contains (m : SortedMap β) (k : String) : Bool := m.entries.any (·.1 == k)

/-- The keys in ascending order. -/
def keys (m : SortedMap β) : List String := m.entries.map (·.1)

end SortedMap

/-- Sets of strings: maps whose values say nothing. -/
abbrev StringSet := SortedMap Unit

namespace StringSet

/-- The set of the strings in a list. -/
def ofList (xs : List String) : StringSet := xs.foldl (fun m x => m.insert x ()) SortedMap.empty

/-- The strings of a set in ascending order. -/
def toList (s : StringSet) : List String := SortedMap.keys s

end StringSet

end CodeIdioms
