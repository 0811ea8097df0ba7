import CodeIdioms.Proofs.Document.Faithful
import CodeIdioms.Proofs.Result

/-! # Rearranged documents

A document is rearranged for a codec by what the codec does not look at: the order of the members of
its objects, and the members of its records whose names are no fields (`Codec.Rearranged`).  A codec
reads the same value from a document and from every rearrangement of it (`read_of_rearranged`).

Members are taken one after the other, so their order does not matter if any two of them can change
places (`foldlM_perm`).  Two members of a record can, since those of one field are refused
(`put_comm`), and so can two entries of a table with different keys. -/

namespace CodeIdioms.Document

/-- A field is the one that its name stands for. -/
inductive Fields.Has {α : Type} (f : Field α) : {αs : List Type} → Fields αs → Prop
  | here {αs : List Type} {rest : Fields αs} : Has f (.cons f rest)
  | there {β : Type} {αs : List Type} {g : Field β} {rest : Fields αs} (h : Has f rest)
      (other : f.name ≠ g.name) : Has f (.cons g rest)

/-- Documents that differ only in what a codec does not look at, the second one having all members
of the first one.  Entries of tables with one key cannot change places, since the last one counts. -/
inductive Codec.Rearranged : {α : Type} → Codec α → Value → Value → Prop
  | refl {α : Type} (c : Codec α) (v : Value) : Rearranged c v v
  | trans {α : Type} {c : Codec α} {u v w : Value} (first : Rearranged c u v)
      (second : Rearranged c v w) : Rearranged c u w
  | members {α : Type} {αs : List Type} {title : String} {fields : Fields αs}
      {make : Values αs → α} {parts : α → Values αs} {ms ms' : List (String × Value)}
      (perm : ms.Perm ms') :
      Rearranged (Codec.record title fields make parts) (.object ms) (.object ms')
  | unknown {α : Type} {αs : List Type} {title : String} {fields : Fields αs}
      {make : Values αs → α} {parts : α → Values αs} {ms : List (String × Value)} {k : String}
      (v : Value) (stranger : k ∉ fields.names) :
      Rearranged (Codec.record title fields make parts) (.object ms) (.object ((k, v) :: ms))
  | part {α β : Type} {αs : List Type} {title : String} {fields : Fields αs}
      {make : Values αs → α} {parts : α → Values αs} {f : Field β} {v v' : Value}
      {before after : List (String × Value)} (has : fields.Has f) (within : Rearranged f.codec v v') :
      Rearranged (Codec.record title fields make parts) (.object (before ++ (f.name, v) :: after))
        (.object (before ++ (f.name, v') :: after))
  | entries {κ α : Type} [DecidableEq κ] [Vocabulary κ] {c : Codec α}
      {ms ms' : List (String × Value)} (distinct : (ms.map (·.1)).Nodup) (perm : ms.Perm ms') :
      Rearranged (Codec.table (Vocabulary.namedValues κ) c) (.object ms) (.object ms')

/-! ### Steps that change places -/

section
variable {ε ι σ : Type} {step : σ → ι → Except ε σ}

theorem foldlM_cons_eq_ok {a : ι} {l : List ι} {s s' : σ} :
    (a :: l).foldlM step s = .ok s' ↔ ∃ s₁, step s a = .ok s₁ ∧ l.foldlM step s₁ = .ok s' := by
  rw [List.foldlM_cons]
  exact Result.bind_eq_ok

theorem foldlM_append_eq_ok {l₁ l₂ : List ι} {s s' : σ} :
    (l₁ ++ l₂).foldlM step s = .ok s' ↔
      ∃ s₁, l₁.foldlM step s = .ok s₁ ∧ l₂.foldlM step s₁ = .ok s' := by
  rw [List.foldlM_append]
  exact Result.bind_eq_ok

/-- Steps any two of which can change places may be taken in any order. -/
theorem foldlM_perm {R : ι → ι → Prop} (symm : ∀ {a b}, R a b → R b a)
    (comm : ∀ {a b s s₁ s₂}, R a b → step s a = .ok s₁ → step s₁ b = .ok s₂ →
      ∃ s₁', step s b = .ok s₁' ∧ step s₁' a = .ok s₂)
    {l l' : List ι} (perm : l.Perm l') (related : l.Pairwise R) {s s' : σ}
    (h : l.foldlM step s = .ok s') : l'.foldlM step s = .ok s' := by
  induction perm generalizing s with
  | nil => exact h
  | cons a _ ih =>
    obtain ⟨s₁, ha, hl⟩ := foldlM_cons_eq_ok.1 h
    exact foldlM_cons_eq_ok.2 ⟨s₁, ha, ih (List.pairwise_cons.1 related).2 hl⟩
  | swap a b l =>
    obtain ⟨s₁, hb, h⟩ := foldlM_cons_eq_ok.1 h
    obtain ⟨s₂, ha, hl⟩ := foldlM_cons_eq_ok.1 h
    have hba : R b a := (List.pairwise_cons.1 related).1 a List.mem_cons_self
    obtain ⟨s₁', ha', hb'⟩ := comm hba hb ha
    exact foldlM_cons_eq_ok.2 ⟨s₁', ha', foldlM_cons_eq_ok.2 ⟨s₂, hb', hl⟩⟩
  | trans perm₁ _ ih₁ ih₂ => exact ih₂ (perm₁.pairwise related symm) (ih₁ related h)

end

/-! ### Records -/

theorem Value.skipFault?_tree (v : Value) : v.tree.skipFault? = none := by
  cases v <;> rfl

namespace Fields

variable {αs : List Type} {fields : Fields αs}

theorem readMembers_tree (fields : Fields αs) (ms : List (String × Value)) (slots : Slots αs) :
    fields.readMembers none (Value.treeMembers ms) slots
      = ms.foldlM (fun slots m => fields.put m.1 m.2.tree slots) slots := by
  induction ms generalizing slots with
  | nil => rfl
  | cons m ms ih =>
    rw [Value.treeMembers, readMembers, List.foldlM_cons]
    exact bind_congr ih

theorem put_cons_eq_ok {α : Type} {f : Field α} {rest : Fields αs} {k : String} {t : Tree}
    {slot : Option α} {slots : Slots αs} {s : Slots (α :: αs)} :
    (cons f rest).put k t (slot, slots) = .ok s ↔
      (k = f.name ∧ slot = none ∧ ∃ x, f.codec.read t = .ok x ∧ (some x, slots) = s) ∨
      (k ≠ f.name ∧ ∃ slots', rest.put k t slots = .ok slots' ∧ (slot, slots') = s) := by
  by_cases hk : k = f.name
  · rw [and_iff_right hk, or_iff_left fun h => h.1 hk]
    cases slot with
    | some y =>
      have hput : (cons f rest).put k t (some y, slots) = .error (.mismatch (.duplicateField k)) :=
        if_pos hk
      simp only [hput, reduceCtorEq, false_and]
    | none =>
      have hput : (cons f rest).put k t (none, slots)
          = (f.codec.read t).map fun x => (some x, slots) := if_pos hk
      rw [hput, Result.map_eq_ok, and_iff_right rfl]
  · have hput : (cons f rest).put k t (slot, slots)
        = (rest.put k t slots).map fun slots => (slot, slots) := if_neg hk
    rw [hput, and_iff_right hk, or_iff_right fun h => hk h.1]
    exact Result.map_eq_ok

/-- Members of different fields can change places, and those of one field are refused. -/
theorem put_comm {k k' : String} {t t' : Tree} {slots slots₁ slots₂ : Slots αs}
    (h : fields.put k t slots = .ok slots₁) (h' : fields.put k' t' slots₁ = .ok slots₂) :
    ∃ slots₁', fields.put k' t' slots = .ok slots₁' ∧ fields.put k t slots₁' = .ok slots₂ := by
  induction fields with
  | nil =>
    unfold put at h h' ⊢
    cases ht : t.skipFault? with
    | some _ =>
      rw [ht] at h
      cases h
    | none =>
      cases ht' : t'.skipFault? with
      | some _ =>
        rw [ht'] at h'
        cases h'
      | none => exact ⟨(), rfl, rfl⟩
  | cons f rest ih =>
    obtain ⟨slot, slots⟩ := slots
    rcases put_cons_eq_ok.1 h with ⟨hk, rfl, x, hx, rfl⟩ | ⟨hk, slots', hput, rfl⟩
    · rcases put_cons_eq_ok.1 h' with ⟨_, hnone, _⟩ | ⟨hk', slots'', hput', rfl⟩
      · cases hnone
      · exact ⟨(none, slots''), put_cons_eq_ok.2 (.inr ⟨hk', _, hput', rfl⟩),
          put_cons_eq_ok.2 (.inl ⟨hk, rfl, x, hx, rfl⟩)⟩
    · rcases put_cons_eq_ok.1 h' with ⟨hk', rfl, x, hx, rfl⟩ | ⟨hk', slots'', hput', rfl⟩
      · exact ⟨(some x, slots), put_cons_eq_ok.2 (.inl ⟨hk', rfl, x, hx, rfl⟩),
          put_cons_eq_ok.2 (.inr ⟨hk, _, hput, rfl⟩)⟩
      · obtain ⟨slots₁', hfirst, hsecond⟩ := ih hput hput'
        exact ⟨(slot, slots₁'), put_cons_eq_ok.2 (.inr ⟨hk', _, hfirst, rfl⟩),
          put_cons_eq_ok.2 (.inr ⟨hk, _, hsecond, rfl⟩)⟩

theorem put_unknown {k : String} {t : Tree} (hk : k ∉ fields.names) (ht : t.skipFault? = none)
    (slots : Slots αs) : fields.put k t slots = .ok slots := by
  induction fields with
  | nil =>
    unfold put
    rw [ht]
  | cons f rest ih =>
    obtain ⟨slot, slots⟩ := slots
    have hne : k ≠ f.name := List.ne_of_not_mem_cons hk
    have hrest : k ∉ rest.names := List.not_mem_of_not_mem_cons hk
    exact put_cons_eq_ok.2 (.inr ⟨hne, slots, ih hrest slots, rfl⟩)

/-- A part may be replaced by one from which its field reads the same. -/
theorem put_of_has {β : Type} {f : Field β} (has : fields.Has f) {t t' : Tree}
    (hread : ∀ {x}, f.codec.read t = .ok x → f.codec.read t' = .ok x) {slots slots' : Slots αs}
    (h : fields.put f.name t slots = .ok slots') : fields.put f.name t' slots = .ok slots' := by
  induction has with
  | here =>
    obtain ⟨slot, slots⟩ := slots
    rcases put_cons_eq_ok.1 h with ⟨hk, rfl, x, hx, rfl⟩ | ⟨hk, _⟩
    · exact put_cons_eq_ok.2 (.inl ⟨hk, rfl, x, hread hx, rfl⟩)
    · exact absurd rfl hk
  | there _ other ih =>
    obtain ⟨slot, slots⟩ := slots
    rcases put_cons_eq_ok.1 h with ⟨hk, _⟩ | ⟨hk, slots', hput, rfl⟩
    · exact absurd hk other
    · exact put_cons_eq_ok.2 (.inr ⟨hk, slots', ih hput, rfl⟩)

end Fields

namespace Codec

section
variable {α : Type} {αs : List Type} {title : String} {fields : Fields αs}
  {make : Values αs → α} {parts : α → Values αs} {ms ms' : List (String × Value)} {x : α}

/-- Members that fill the slots in the same way make the same record. -/
theorem read_record_of_put
    (h : ∀ {slots}, ms.foldlM (fun s m => fields.put m.1 m.2.tree s) fields.start = .ok slots →
      ms'.foldlM (fun s m => fields.put m.1 m.2.tree s) fields.start = .ok slots)
    (hx : (record title fields make parts).read (Value.object ms).tree = .ok x) :
    (record title fields make parts).read (Value.object ms').tree = .ok x := by
  obtain ⟨slots, hslots, hfill⟩ := Result.bind_eq_ok.1 hx
  have hslots' : fields.readMembers none (Value.treeMembers ms') fields.start = .ok slots := by
    rw [Fields.readMembers_tree] at hslots ⊢
    exact h hslots
  exact Result.bind_eq_ok.2 ⟨slots, hslots', hfill⟩

theorem read_record_perm (perm : ms.Perm ms')
    (hx : (record title fields make parts).read (Value.object ms).tree = .ok x) :
    (record title fields make parts).read (Value.object ms').tree = .ok x := by
  refine read_record_of_put (foldlM_perm (R := fun _ _ => True) ?_ ?_ perm ?_) hx
  · exact fun h => h
  · exact fun _ => Fields.put_comm
  · exact List.pairwise_of_forall fun _ _ => trivial

theorem read_record_unknown {k : String} (v : Value) (stranger : k ∉ fields.names)
    (hx : (record title fields make parts).read (Value.object ms).tree = .ok x) :
    (record title fields make parts).read (Value.object ((k, v) :: ms)).tree = .ok x := by
  refine read_record_of_put (fun h => ?_) hx
  exact foldlM_cons_eq_ok.2 ⟨_, Fields.put_unknown stranger v.skipFault?_tree _, h⟩

theorem read_record_part {β : Type} {f : Field β} {v v' : Value}
    {before after : List (String × Value)} (has : fields.Has f)
    (hread : ∀ {y}, f.codec.read v.tree = .ok y → f.codec.read v'.tree = .ok y)
    (hx : (record title fields make parts).read
      (Value.object (before ++ (f.name, v) :: after)).tree = .ok x) :
    (record title fields make parts).read
      (Value.object (before ++ (f.name, v') :: after)).tree = .ok x := by
  refine read_record_of_put (fun h => ?_) hx
  obtain ⟨slots₁, hbefore, h⟩ := foldlM_append_eq_ok.1 h
  obtain ⟨slots₂, hput, hafter⟩ := foldlM_cons_eq_ok.1 h
  have hput' := Fields.put_of_has has hread hput
  exact foldlM_append_eq_ok.2 ⟨slots₁, hbefore, foldlM_cons_eq_ok.2 ⟨slots₂, hput', hafter⟩⟩

end

/-! ### Tables -/

section
variable {κ α : Type} [DecidableEq κ] [Vocabulary κ] {c : Codec α} {ms ms' : List (String × Value)}

/-- A table with the entry of a member more. -/
def store (c : Codec α) (acc : κ → Option α) (m : String × Value) :
    Except Problem (κ → Option α) :=
  lookup (Vocabulary.namedValues κ) m.1 >>= fun key =>
    (c.read m.2.tree).map fun x key' => if key' = key then some x else acc key'

theorem read_table (c : Codec α) (ms : List (String × Value)) :
    (table (Vocabulary.namedValues κ) c).read (Value.object ms).tree
      = ms.foldlM (store c) fun _ => none := by
  suffices hacc : ∀ acc : κ → Option α, readMembers (fun k =>
      (lookup (Vocabulary.namedValues κ) k).map fun key t =>
        (c.read t).map fun x m key' => if key' = key then some x else m key') none
          (Value.treeMembers ms) acc = ms.foldlM (store c) acc from hacc _
  induction ms with
  | nil => exact fun _ => rfl
  | cons m ms ih =>
    intro acc
    rw [Value.treeMembers, readMembers, List.foldlM_cons]
    unfold store
    cases lookup (Vocabulary.namedValues κ) m.1 with
    | error _ => rfl
    | ok key =>
      show ((c.read m.2.tree).map _ >>= _) = ((c.read m.2.tree).map _ >>= _)
      cases c.read m.2.tree with
      | error _ => rfl
      | ok x => exact ih _

omit [DecidableEq κ] in
/-- The name of a value is the one under which it is found. -/
theorem eq_of_lookup {k : String} {key : κ} (h : lookup (Vocabulary.namedValues κ) k = .ok key) :
    k = Vocabulary.name key := by
  unfold lookup at h
  split at h
  · next name x hfind =>
    obtain rfl := Except.ok.inj h
    have hname : name = k := by simpa using List.find?_some hfind
    obtain ⟨y, _, hy⟩ := List.mem_map.1 (List.mem_of_find?_eq_some hfind)
    obtain ⟨rfl, rfl⟩ := Prod.mk.inj hy
    exact hname.symm
  · cases h

theorem store_comm {acc acc₁ acc₂ : κ → Option α} {m m' : String × Value} (hne : m.1 ≠ m'.1)
    (h : store c acc m = .ok acc₁) (h' : store c acc₁ m' = .ok acc₂) :
    ∃ acc₁', store c acc m' = .ok acc₁' ∧ store c acc₁' m = .ok acc₂ := by
  obtain ⟨key, hkey, h⟩ := Result.bind_eq_ok.1 h
  obtain ⟨x, hx, rfl⟩ := Result.map_eq_ok.1 h
  obtain ⟨key', hkey', h'⟩ := Result.bind_eq_ok.1 h'
  obtain ⟨x', hx', rfl⟩ := Result.map_eq_ok.1 h'
  have hkeys : key ≠ key' := by
    rintro rfl
    exact hne ((eq_of_lookup hkey).trans (eq_of_lookup hkey').symm)
  refine ⟨_, Result.bind_eq_ok.2 ⟨key', hkey', Result.map_eq_ok.2 ⟨x', hx', rfl⟩⟩,
    Result.bind_eq_ok.2 ⟨key, hkey, Result.map_eq_ok.2 ⟨x, hx, funext fun key'' => ?_⟩⟩⟩
  show (if key'' = key then some x else if key'' = key' then some x' else acc key'')
    = if key'' = key' then some x' else if key'' = key then some x else acc key''
  by_cases heq : key'' = key
  · rw [if_pos heq, if_neg fun heq' => hkeys (heq.symm.trans heq'), if_pos heq]
  · rw [if_neg heq, if_neg heq]

theorem read_table_perm (perm : ms.Perm ms') (distinct : (ms.map (·.1)).Nodup)
    {x : κ → Option α}
    (hx : (table (Vocabulary.namedValues κ) c).read (Value.object ms).tree = .ok x) :
    (table (Vocabulary.namedValues κ) c).read (Value.object ms').tree = .ok x := by
  have hkeys : ms.Pairwise fun m m' => m.1 ≠ m'.1 := List.pairwise_map.1 distinct
  rw [read_table] at hx ⊢
  exact foldlM_perm (R := fun m m' => m.1 ≠ m'.1) Ne.symm store_comm perm hkeys hx

end

/-- **Rearrangement.**  Rearranging a document does not change what is read from it. -/
theorem read_of_rearranged {α : Type} {c : Codec α} {v v' : Value} (h : c.Rearranged v v') {x : α}
    (hx : c.read v.tree = .ok x) : c.read v'.tree = .ok x := by
  induction h with
  | refl c v => exact hx
  | trans _ _ ih₁ ih₂ => exact ih₂ (ih₁ hx)
  | members perm => exact read_record_perm perm hx
  | unknown v stranger => exact read_record_unknown v stranger hx
  | part has _ ih => exact read_record_part has ih hx
  | entries distinct perm => exact read_table_perm perm distinct hx

/-! ### Whole texts -/

/-- A text that is a document and nothing else is read as the document is. -/
theorem readText_eq_read {α : Type} (c : Codec α) {text : String} {t : Tree}
    (h : Source.read text = ⟨t, false⟩) : c.readText text = c.read t := by
  unfold readText
  rw [h]
  exact bind_pure (c.read t)

end Codec

end CodeIdioms.Document
