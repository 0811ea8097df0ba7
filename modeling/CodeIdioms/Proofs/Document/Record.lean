import CodeIdioms.Document.Record
import CodeIdioms.Proofs.Result

/-! # Reading records

A field of a record is read from the part of a document that is given for it: the member with its
name, wherever that stands among the members of an object, or the item at its place in an array
(`Tree.part?`).  A field that nothing is given for has its fallback.  What a record is read as
depends on nothing else (`reads_of_read`), and the same goes for a record that may be missing, if
its default is made of the fallbacks of its fields (`reads_of_settles`).

In an array, fields and items go side by side.  In an object, the slots hold what the members so far
give for the fields (`Holds`); every member that is taken keeps that up (`holds_put`), and so do all
members together (`holds_readMembers`). -/

namespace CodeIdioms.Document

/-- The first member with a name. -/
def Tree.memberOf? (name : String) (members : List (Except Fault String × Tree)) : Option Tree :=
  (members.find? fun m => m.1.toOption == some name).map (·.2)

/-- The part of a document that is given for the `i`-th field of a record. -/
def Tree.part? (t : Tree) (name : String) (i : Nat) : Option Tree :=
  match t with
  | .object members _ => memberOf? name members
  | .array items _ => items[i]?
  | _ => none

theorem Tree.memberOf?_cons (name k : String) (t : Tree)
    (members : List (Except Fault String × Tree)) : memberOf? name ((.ok k, t) :: members)
      = (if k = name then some t else none).or (memberOf? name members) := by
  unfold memberOf?
  rw [List.find?_cons]
  by_cases h : k = name
  · have hbeq : (Except.toOption (.ok k : Except Fault String) == some name) = true := by
      rw [h]
      exact beq_self_eq_true (some name)
    rw [hbeq, if_pos h]
    rfl
  · have hbeq : (Except.toOption (.ok k : Except Fault String) == some name) = false :=
      beq_eq_false_iff_ne.2 fun heq => h (Option.some.inj heq)
    rw [hbeq, if_neg h]
    rfl

/-- A field has the value that is read from what is given for it, or else its fallback. -/
def Field.Reads {α : Type} (f : Field α) (given : Option Tree) (x : α) : Prop :=
  match given with
  | some t => f.codec.read t = .ok x
  | none => f.fallback = some x

/-- A value is the one that is read from what is given for it, or else its default. -/
def Codec.Settles {α : Type} (c : Codec α) (given : Option Tree) (default x : α) : Prop :=
  match given with
  | some t => c.read t = .ok x
  | none => x = default

theorem Field.reads_defaulting {α : Type} {name : String} {c : Codec α} {given : Option Tree}
    {d x : α} : (defaulting name c d).Reads given x ↔ c.Settles given d x := by
  cases given with
  | none => exact Option.some_inj.trans eq_comm
  | some t => exact Iff.rfl

namespace Fields

/-- All fields, of which the first is the `i`-th, have the values that are given for them. -/
def Reads : {αs : List Type} → Fields αs → (String → Nat → Option Tree) → Nat → Values αs → Prop
  | _, nil, _, _, _ => True
  | _, cons f rest, given, i, (x, xs) => f.Reads (given f.name i) x ∧ rest.Reads given (i + 1) xs

/-- The slots hold what has been given for the fields. -/
def Holds : {αs : List Type} → Fields αs → (String → Option Tree) → Slots αs → Prop
  | _, nil, _, _ => True
  | _, cons f rest, given, (slot, slots) =>
    Option.Rel (fun t x => f.codec.read t = .ok x) (given f.name) slot ∧ rest.Holds given slots

variable {αs : List Type} {fields : Fields αs} {given : String → Option Tree}

/-! ### Objects -/

theorem holds_start (fields : Fields αs) : fields.Holds (fun _ => none) fields.start := by
  induction fields with
  | nil => trivial
  | cons f rest ih => exact ⟨.none, ih⟩

/-- The slots depend on what is given for the fields only. -/
theorem holds_congr {given' : String → Option Tree} {slots : Slots αs}
    (h : ∀ name ∈ fields.names, given' name = given name) (holds : fields.Holds given slots) :
    fields.Holds given' slots := by
  induction fields with
  | nil => trivial
  | cons f rest ih =>
    obtain ⟨hslot, hslots⟩ := holds
    obtain ⟨hf, hrest⟩ := List.forall_mem_cons.1 h
    exact ⟨by rwa [hf], ih hrest hslots⟩

theorem holds_put (distinct : fields.names.Nodup) {k : String} {t : Tree} {slots slots' : Slots αs}
    (holds : fields.Holds given slots) (h : fields.put k t slots = .ok slots') :
    fields.Holds (fun name => (given name).or (if k = name then some t else none)) slots' := by
  induction fields with
  | nil => trivial
  | cons f rest ih =>
    obtain ⟨slot, slots⟩ := slots
    obtain ⟨hslot, hslots⟩ := holds
    obtain ⟨hname, hdistinct⟩ := List.nodup_cons.1 distinct
    unfold put at h
    by_cases hk : k = f.name
    · rw [if_pos hk] at h
      cases slot with
      | some _ => cases h
      | none =>
        obtain ⟨x, hread, rfl⟩ := Result.map_eq_ok.1 h
        have hhere : (given f.name).or (if k = f.name then some t else none) = some t := by
          generalize given f.name = g at hslot ⊢
          cases hslot
          rw [Option.none_or, if_pos hk]
        have hothers : ∀ name ∈ rest.names,
            (given name).or (if k = name then some t else none) = given name := by
          intro name hmem
          have hne : k ≠ name := fun heq => hname (hk.symm.trans heq ▸ hmem)
          rw [if_neg hne, Option.or_none]
        refine ⟨?_, holds_congr hothers hslots⟩
        show Option.Rel _ ((given f.name).or (if k = f.name then some t else none)) (some x)
        rw [hhere]
        exact .some hread
    · rw [if_neg hk] at h
      obtain ⟨slots', hput, rfl⟩ := Result.map_eq_ok.1 h
      have hhere : (given f.name).or (if k = f.name then some t else none) = given f.name := by
        rw [if_neg hk, Option.or_none]
      refine ⟨?_, ih hdistinct hslots hput⟩
      show Option.Rel _ ((given f.name).or (if k = f.name then some t else none)) slot
      rwa [hhere]

theorem holds_readMembers (distinct : fields.names.Nodup) {ending : Option Break}
    {members : List (Except Fault String × Tree)} {slots slots' : Slots αs}
    (holds : fields.Holds given slots)
    (h : fields.readMembers ending members slots = .ok slots') :
    fields.Holds (fun name => (given name).or (Tree.memberOf? name members)) slots' := by
  induction members generalizing given slots with
  | nil =>
    cases ending with
    | some _ => cases h
    | none =>
      cases h
      exact holds_congr (fun name _ => Option.or_none) holds
  | cons m members ih =>
    obtain ⟨key, t⟩ := m
    cases key with
    | error _ => cases h
    | ok k =>
      obtain ⟨slots'', hput, h⟩ := Result.bind_eq_ok.1 h
      refine holds_congr (fun name _ => ?_) (ih (holds_put distinct holds hput) h)
      rw [Tree.memberOf?_cons, Option.or_assoc]

theorem reads_of_fill {slots : Slots αs} {xs : Values αs} (holds : fields.Holds given slots)
    (h : fields.fill slots = .ok xs) (i : Nat) : fields.Reads (fun name _ => given name) i xs := by
  induction fields generalizing i with
  | nil => trivial
  | cons f rest ih =>
    obtain ⟨slot, slots⟩ := slots
    obtain ⟨hslot, hslots⟩ := holds
    unfold fill at h
    cases hx : slot <|> f.fallback with
    | none =>
      rw [hx] at h
      cases h
    | some x =>
      rw [hx] at h
      obtain ⟨xs, hrest, rfl⟩ := Result.map_eq_ok.1 h
      have hhere : f.Reads (given f.name) x := by
        generalize given f.name = g at hslot ⊢
        cases hslot with
        | none => exact hx
        | some hread =>
          obtain rfl := Option.some.inj hx
          exact hread
      exact ⟨hhere, ih hslots hrest (i + 1)⟩

/-! ### Arrays -/

theorem reads_of_readItems {items : List Tree} {wanted : String} {ending : Option Break} {i : Nat}
    {xs : Values αs} (h : fields.readItems wanted ending i (items.drop i) = .ok xs) :
    fields.Reads (fun _ j => items[j]?) i xs := by
  induction fields generalizing i with
  | nil => trivial
  | cons f rest ih =>
    have hnext : (items.drop i).tail = items.drop (i + 1) := List.tail_drop
    have hhere : (items.drop i).head? = items[i]? := List.head?_drop
    cases hitems : items.drop i with
    | nil =>
      rw [hitems] at h hnext hhere
      cases ending with
      | some _ => cases h
      | none =>
        unfold readItems at h
        cases hfallback : f.fallback with
        | none =>
          rw [hfallback] at h
          cases h
        | some x =>
          rw [hfallback] at h
          obtain ⟨xs, hrest, rfl⟩ := Result.map_eq_ok.1 h
          have hread : f.Reads items[i]? x := by
            rw [← hhere]
            exact hfallback
          exact ⟨hread, ih (hnext ▸ hrest)⟩
    | cons t ts =>
      rw [hitems] at h hnext hhere
      obtain ⟨x, hx, h⟩ := Result.bind_eq_ok.1 h
      obtain ⟨xs, hrest, hxs⟩ := Result.bind_eq_ok.1 h
      obtain rfl := Except.ok.inj hxs
      have hread : f.Reads items[i]? x := by
        rw [← hhere]
        exact hx
      exact ⟨hread, ih (hnext ▸ hrest)⟩

end Fields

/-! ### Records -/

section
variable {α : Type} {αs : List Type} {fields : Fields αs} {title : String} {make : Values αs → α}
  {parts : α → Values αs}

/-- A record is made of the values that a document gives for its fields. -/
theorem Codec.reads_of_read (distinct : fields.names.Nodup) {t : Tree} {x : α}
    (h : (Codec.record title fields make parts).read t = .ok x) :
    ∃ xs, make xs = x ∧ fields.Reads t.part? 0 xs := by
  cases t with
  | object members ending =>
    obtain ⟨slots, hslots, h⟩ := Result.bind_eq_ok.1 h
    obtain ⟨xs, hfill, hmake⟩ := Result.bind_eq_ok.1 h
    have holds := Fields.holds_readMembers distinct fields.holds_start hslots
    exact ⟨xs, Except.ok.inj hmake, Fields.reads_of_fill holds hfill 0⟩
  | array items ending =>
    obtain ⟨xs, hitems, hmake⟩ := Result.bind_eq_ok.1 h
    exact ⟨xs, Except.ok.inj hmake, Fields.reads_of_readItems hitems⟩
  | null => cases h
  | bool _ => cases h
  | number _ => cases h
  | string _ => cases h
  | broken _ => cases h

/-- So is a record that may be missing. -/
theorem Codec.reads_of_settles {given : Option Tree} {d x : α}
    (h : (Codec.record title fields make parts).Settles given d x)
    (distinct : fields.names.Nodup)
    (hd : ∃ ds, make ds = d ∧ fields.Reads (fun _ _ => none) 0 ds) :
    ∃ xs, make xs = x ∧ fields.Reads (fun name i => given.bind (·.part? name i)) 0 xs := by
  cases given with
  | none =>
    obtain rfl : x = d := h
    exact hd
  | some t => exact reads_of_read distinct h

end

end CodeIdioms.Document
