import CodeIdioms.Document.Record
import CodeIdioms.Proofs.SortedMap
import CodeIdioms.Vocabulary.Name

/-! # Faithful codecs

A codec is faithful to a value if reading gives back what was written.  Sequences are as faithful as
their items (`faithful_list`), and an object whose members are written faithfully is read as the map
of its members (`read_map_object`).  Tables are as faithful as their values (`faithful_table`), and
records as their fields, where a value that is left out must be the one that its field falls back to
(`faithful_record`). -/

namespace CodeIdioms.Document

namespace Codec

variable {α : Type} {c : Codec α}

/-! ### Plain values -/

theorem faithful_string (s : String) : string.Faithful s := rfl

theorem faithful_bool (b : Bool) : bool.Faithful b := rfl

theorem faithful_float (x : Float) : float.Faithful x := rfl

theorem faithful_word (wanted : String) (n : UInt64) : (word wanted).Faithful n := rfl

/-- What is written for a value must not be `null`, since that stands for nothing. -/
theorem faithful_option {o : Option α} (h : ∀ x ∈ o, c.Faithful x ∧ c.write x ≠ .null) :
    (option c).Faithful o := by
  cases o with
  | none => rfl
  | some x =>
    obtain ⟨hx, hnull⟩ := h x rfl
    unfold Faithful at hx
    show (option c).read (c.write x).tree = _
    cases hv : c.write x with
    | null => exact absurd hv hnull
    | _ =>
      rw [hv] at hx
      exact congrArg (Except.map some) hx

/-! ### Sequences -/

theorem readItems_treeItems {xs : List α} (h : ∀ x ∈ xs, c.Faithful x) :
    readItems c.read none (Value.treeItems (xs.map c.write)) = .ok xs := by
  induction xs with
  | nil => rfl
  | cons x xs ih =>
    obtain ⟨hx, hxs⟩ := List.forall_mem_cons.1 h
    unfold Faithful at hx
    rw [List.map_cons, Value.treeItems, readItems, hx, ih hxs]
    rfl

theorem faithful_list {xs : List α} (h : ∀ x ∈ xs, c.Faithful x) : (list c).Faithful xs :=
  readItems_treeItems h

theorem faithful_stringSet (s : StringSet) : stringSet.Faithful s := by
  have hlist : (list string).Faithful (StringSet.toList s) :=
    faithful_list fun x _ => faithful_string x
  have hset : StringSet.ofList (StringSet.toList s) = s := by
    show (s.entries.map (·.1)).foldl (fun m x => m.insert x ()) SortedMap.empty = s
    rw [List.foldl_map]
    exact SortedMap.ofList_entries s
  show ((list string).read ((list string).write (StringSet.toList s)).tree).map _ = _
  rw [hlist]
  exact congrArg Except.ok hset

/-! ### Maps -/

/-- Members that are written faithfully are stored one after the other. -/
theorem readMembers_stores {ε σ : Type}
    {put : String → Except Problem (Tree → Except Problem (σ → σ))} {key : ε → String}
    {value : ε → α} (store : ε → α → σ → σ) {es : List ε}
    (h : ∀ e ∈ es, c.Faithful (value e) ∧ put (key e) = .ok fun t => (c.read t).map (store e))
    (acc : σ) :
    readMembers put none (Value.treeMembers (es.map fun e => (key e, c.write (value e)))) acc
      = .ok (es.foldl (fun acc e => store e (value e) acc) acc) := by
  induction es generalizing acc with
  | nil => rfl
  | cons e es ih =>
    obtain ⟨⟨he, hput⟩, hes⟩ := List.forall_mem_cons.1 h
    unfold Faithful at he
    rw [List.map_cons, Value.treeMembers, readMembers, List.foldl_cons, ← ih hes]
    simp only [hput, he, bind, Except.bind]
    rfl

/-- The object with some members, in their order. -/
def object (c : Codec α) (es : List (String × α)) : Value :=
  .object (es.map fun e => (e.1, c.write e.2))

theorem read_map_object {es : List (String × α)} (h : ∀ e ∈ es, c.Faithful e.2) :
    (map c).read (c.object es).tree = .ok (SortedMap.ofList es) := by
  let store (e : String × α) (x : α) (m : SortedMap α) : SortedMap α := m.insert e.1 x
  have hput : ∀ e ∈ es, c.Faithful e.2 ∧ (.ok fun t => (c.read t).map fun x m => m.insert e.1 x)
      = (.ok fun t => (c.read t).map (store e) : Except Problem _) := fun e he => ⟨h e he, rfl⟩
  exact readMembers_stores store hput SortedMap.empty

section
variable {κ : Type} [DecidableEq κ] {m : κ → Option α}

/-- Storing the values of some keys makes a table agree at these keys. -/
theorem foldl_store_eq {es : List (String × κ × α)} (hes : ∀ e ∈ es, m e.2.1 = some e.2.2)
    {acc : κ → Option α} {key : κ} (h : acc key = m key ∨ ∃ e ∈ es, e.2.1 = key) :
    es.foldl (fun acc e key' => if key' = e.2.1 then some e.2.2 else acc key') acc key = m key := by
  induction es generalizing acc with
  | nil => exact h.resolve_right nofun
  | cons e es ih =>
    obtain ⟨he, hes⟩ := List.forall_mem_cons.1 hes
    refine ih hes ?_
    by_cases hkey : key = e.2.1
    · have hstored : (if key = e.2.1 then some e.2.2 else acc key) = m key := by
        rw [if_pos hkey, hkey, he]
      exact .inl hstored
    · have hkept : (if key = e.2.1 then some e.2.2 else acc key) = acc key := if_neg hkey
      refine h.imp hkept.trans fun ⟨e', he', heq⟩ => ?_
      rcases List.mem_cons.1 he' with rfl | he'
      · exact absurd heq.symm hkey
      · exact ⟨e', he', heq⟩

variable [Vocabulary κ]

/-- A table is faithful if all its keys and values are. -/
theorem faithful_table (hall : ∀ key : κ, key ∈ (Vocabulary.all : List κ))
    (hkeys : ∀ key : κ, (Vocabulary.codec : Codec κ).Faithful key)
    (h : ∀ key, ∀ x ∈ m key, c.Faithful x) :
    (table (Vocabulary.namedValues κ) c).Faithful m := by
  let entry (e : String × κ) : Option (String × κ × α) := (m e.2).map fun x => (e.1, e.2, x)
  let es := (Vocabulary.namedValues κ).filterMap entry
  have hmem {e : String × κ × α} (he : e ∈ es) :
      e.1 = Vocabulary.name e.2.1 ∧ m e.2.1 = some e.2.2 := by
    obtain ⟨named, hnamed, he⟩ := List.mem_filterMap.1 he
    obtain ⟨key, _, rfl⟩ := List.mem_map.1 hnamed
    obtain ⟨x, hx, rfl⟩ := Option.map_eq_some_iff.1 he
    exact ⟨rfl, hx⟩
  have hwrite : (table (Vocabulary.namedValues κ) c).write m
      = .object (es.map fun e => (e.1, c.write e.2.2)) := by
    refine congrArg Value.object ?_
    rw [List.map_filterMap]
    refine List.filterMap_congr fun e _ => ?_
    show (m e.2).map _ = ((m e.2).map _).map _
    rw [Option.map_map]
    rfl
  let store (e : String × κ × α) (x : α) (m : κ → Option α) : κ → Option α :=
    fun key => if key = e.2.1 then some x else m key
  have hread : (table (Vocabulary.namedValues κ) c).read
      (Value.object (es.map fun e => (e.1, c.write e.2.2))).tree
        = .ok (es.foldl (fun acc e => store e e.2.2 acc) fun _ => none) := by
    refine readMembers_stores store (fun e he => ?_) fun _ => none
    obtain ⟨hname, hx⟩ := hmem he
    have hlookup : lookup (Vocabulary.namedValues κ) e.1 = .ok e.2.1 := hname ▸ hkeys e.2.1
    exact ⟨h _ _ hx, congrArg (Except.map _) hlookup⟩
  unfold Faithful
  rw [hwrite, hread]
  refine congrArg Except.ok (funext fun key => foldl_store_eq (fun e he => (hmem he).2) ?_)
  cases hx : m key with
  | none => exact .inl rfl
  | some x =>
    have hentry : entry (Vocabulary.name key, key) = some (Vocabulary.name key, key, x) :=
      congrArg (Option.map _) hx
    have hnamed : (Vocabulary.name key, key) ∈ Vocabulary.namedValues κ :=
      List.mem_map.2 ⟨key, hall key, rfl⟩
    exact .inr ⟨_, List.mem_filterMap.2 ⟨_, hnamed, hentry⟩, rfl⟩

end

end Codec

/-! ### Records -/

/-- A field gives a value back, or its fallback if the value is left out. -/
def Field.Faithful {α : Type} (f : Field α) (x : α) : Prop :=
  if f.omits x then f.fallback = some x else f.codec.Faithful x

namespace Fields

/-- All fields give their values back. -/
def Faithful : {αs : List Type} → Fields αs → Values αs → Prop
  | _, nil, _ => True
  | _, cons f rest, (x, xs) => f.Faithful x ∧ rest.Faithful xs

variable {αs : List Type}

theorem fst_mem_names {fields : Fields αs} {xs : Values αs} {m : String × Value}
    (h : m ∈ fields.write xs) : m.1 ∈ fields.names := by
  induction fields with
  | nil => cases h
  | cons f rest ih =>
    obtain ⟨x, xs⟩ := xs
    unfold write at h
    split at h
    · exact List.mem_cons_of_mem _ (ih h)
    · rcases List.mem_cons.1 h with rfl | h
      · exact List.mem_cons_self
      · exact List.mem_cons_of_mem _ (ih h)

/-- Members that are not for the first field leave its slot as it is. -/
theorem readMembers_cons {α : Type} {f : Field α} {rest : Fields αs} {ms : List (String × Value)}
    (h : ∀ m ∈ ms, m.1 ≠ f.name) (slot : Option α) (slots : Slots αs) :
    (cons f rest).readMembers none (Value.treeMembers ms) (slot, slots)
      = (rest.readMembers none (Value.treeMembers ms) slots).map fun slots => (slot, slots) := by
  induction ms generalizing slots with
  | nil => rfl
  | cons m ms ih =>
    obtain ⟨k, v⟩ := m
    obtain ⟨hk, hms⟩ := List.forall_mem_cons.1 h
    have hput : (cons f rest).put k v.tree (slot, slots)
        = (rest.put k v.tree slots).map fun slots => (slot, slots) := if_neg hk
    rw [Value.treeMembers, readMembers, readMembers, hput]
    cases rest.put k v.tree slots with
    | error _ => rfl
    | ok slots => exact ih hms slots

/-- The members of faithful fields fill the slots with the values that were written. -/
theorem exists_fill_eq {fields : Fields αs} (distinct : fields.names.Nodup) {xs : Values αs}
    (h : fields.Faithful xs) : ∃ slots,
      fields.readMembers none (Value.treeMembers (fields.write xs)) fields.start = .ok slots ∧
        fields.fill slots = .ok xs := by
  induction fields with
  | nil => exact ⟨(), rfl, rfl⟩
  | cons f rest ih =>
    obtain ⟨x, xs⟩ := xs
    obtain ⟨hx, hxs⟩ := h
    obtain ⟨hname, hdistinct⟩ := List.nodup_cons.1 distinct
    obtain ⟨slots, hread, hfill⟩ := ih hdistinct hxs
    have hothers : ∀ m ∈ rest.write xs, m.1 ≠ f.name := fun m hm heq =>
      hname (heq ▸ fst_mem_names hm)
    unfold Field.Faithful at hx
    unfold write
    by_cases homits : f.omits x = true
    · rw [if_pos homits] at hx ⊢
      refine ⟨(none, slots), ?_, ?_⟩
      · exact (readMembers_cons hothers none _).trans (congrArg _ hread)
      · unfold fill
        rw [hx, hfill]
        rfl
    · rw [if_neg homits] at hx ⊢
      refine ⟨(some x, slots), ?_, ?_⟩
      · have hput : (cons f rest).put f.name (f.codec.write x).tree (none, rest.start)
            = .ok (some x, rest.start) := by
          unfold put
          rw [if_pos rfl, hx]
          rfl
        rw [Value.treeMembers, readMembers]
        show ((cons f rest).put f.name (f.codec.write x).tree (none, rest.start) >>= _) = _
        rw [hput]
        exact (readMembers_cons hothers (some x) _).trans (congrArg _ hread)
      · unfold fill
        rw [hfill]
        rfl

end Fields

/-- A record is faithful if its fields are, and if it is made of its parts. -/
theorem Codec.faithful_record {α : Type} {αs : List Type} {title : String} {fields : Fields αs}
    {make : Values αs → α} {parts : α → Values αs} (distinct : fields.names.Nodup) {x : α}
    (hmake : make (parts x) = x) (h : fields.Faithful (parts x)) :
    (Codec.record title fields make parts).Faithful x := by
  obtain ⟨slots, hread, hfill⟩ := Fields.exists_fill_eq distinct h
  show (fields.readMembers none _ fields.start >>= fun slots =>
    fields.fill slots >>= fun xs => pure (make xs)) = _
  rw [hread]
  show (fields.fill slots >>= _) = _
  rw [hfill]
  exact congrArg Except.ok hmake

end CodeIdioms.Document
