import CodeIdioms.Proofs.Document.Rearrangement
import CodeIdioms.Proofs.Document.Record

/-! # Objects that can be read

An object is read as a record if it is complete, gives no field twice, has nothing else that cannot
be skipped, and gives for every field what its codec reads (`exists_read_record`); a field that it
does not give must have a fallback.  Every member that is taken leaves the slots of other fields
free, so whichever comes first, no member is refused (`exists_readMembers`).

What the codecs of plain values read is told by the parts of documents that stand for the values
(`read_string_iff`, `read_float_iff` and others). -/

namespace CodeIdioms.Document

/-- The member of an object with a name. -/
def Tree.member? (name : String) : Tree → Option Tree
  | .object members _ => memberOf? name members
  | _ => none

/-- The members of an object whose keys are all strings. -/
def keyed (members : List (String × Tree)) : List (Except Fault String × Tree) :=
  members.map fun m => (.ok m.1, m.2)

/-- A complete object that gives each of some names at most once, besides members that can be
skipped. -/
inductive Tree.GivesOnce (names : List String) : Tree → Prop
  | object {members : List (String × Tree)}
      (once : ((members.map (·.1)).filter (· ∈ names)).Nodup)
      (skippable : ∀ m ∈ members, m.1 ∉ names → m.2.skipFault? = none) :
      GivesOnce names (.object (keyed members) none)

theorem Tree.GivesOnce.part?_eq {names : List String} {t : Tree} (h : t.GivesOnce names)
    (name : String) (i : Nat) : t.part? name i = t.member? name := by
  cases h
  rfl

/-- The member of a name that is given once is the one that has it. -/
theorem memberOf?_keyed_of_mem {names : List String} {members : List (String × Tree)}
    (once : ((members.map (·.1)).filter (· ∈ names)).Nodup) {m : String × Tree} (hm : m ∈ members)
    (hname : m.1 ∈ names) : Tree.memberOf? m.1 (keyed members) = some m.2 := by
  induction members with
  | nil => cases hm
  | cons m' members ih =>
    show Tree.memberOf? m.1 ((.ok m'.1, m'.2) :: keyed members) = _
    rw [Tree.memberOf?_cons]
    rw [List.map_cons, List.filter_cons] at once
    rcases List.mem_cons.1 hm with rfl | hm
    · rw [if_pos rfl, Option.some_or]
    · have hkey : m.1 ∈ (members.map (·.1)).filter (· ∈ names) := by
        simpa using ⟨⟨m.2, hm⟩, hname⟩
      have hne : m'.1 ≠ m.1 := by
        intro heq
        rw [heq, if_pos (by simpa using hname)] at once
        exact (List.nodup_cons.1 once).1 hkey
      rw [if_neg hne, Option.none_or]
      refine ih ?_ hm
      split at once
      · exact (List.nodup_cons.1 once).2
      · exact once

/-! ### Records -/

namespace Fields

/-- Every field has a value that can be read from what is given for it, or a fallback. -/
def Readable : {αs : List Type} → Fields αs → (String → Nat → Option Tree) → Nat → Prop
  | _, nil, _, _ => True
  | _, cons f rest, given, i => (∃ x, f.Reads (given f.name i) x) ∧ rest.Readable given (i + 1)

/-- A member can be taken: its field reads it, or it can be skipped. -/
def Takes : {αs : List Type} → Fields αs → String → Tree → Prop
  | _, nil, _, t => t.skipFault? = none
  | _, cons f rest, k, t => if k = f.name then ∃ x, f.codec.read t = .ok x else rest.Takes k t

variable {αs : List Type} {fields : Fields αs}

theorem takes_of_readable {given : String → Nat → Option Tree} {i : Nat}
    (h : fields.Readable given i) {k : String} {t : Tree}
    (hgiven : k ∈ fields.names → ∀ j, given k j = some t)
    (hskip : k ∉ fields.names → t.skipFault? = none) : fields.Takes k t := by
  induction fields generalizing i with
  | nil => exact hskip List.not_mem_nil
  | cons f rest ih =>
    obtain ⟨⟨x, hx⟩, hrest⟩ := h
    unfold Takes
    by_cases hk : k = f.name
    · subst hk
      rw [hgiven List.mem_cons_self] at hx
      rw [if_pos rfl]
      exact ⟨x, hx⟩
    · rw [if_neg hk]
      refine ih hrest (fun hmem => hgiven (List.mem_cons_of_mem _ hmem)) fun hnot => hskip ?_
      exact fun hmem => (List.mem_cons.1 hmem).elim hk hnot

theorem exists_put {given : String → Option Tree} {slots : Slots αs}
    (holds : fields.Holds given slots) {k : String} {t : Tree}
    (free : k ∈ fields.names → given k = none) (h : fields.Takes k t) :
    ∃ slots', fields.put k t slots = .ok slots' := by
  induction fields with
  | nil =>
    unfold put
    rw [show t.skipFault? = none from h]
    exact ⟨(), rfl⟩
  | cons f rest ih =>
    obtain ⟨slot, slots⟩ := slots
    obtain ⟨hslot, hslots⟩ := holds
    unfold Takes at h
    by_cases hk : k = f.name
    · subst hk
      rw [if_pos rfl] at h
      obtain ⟨x, hx⟩ := h
      rw [free List.mem_cons_self] at hslot
      cases hslot
      exact ⟨_, put_cons_eq_ok.2 (.inl ⟨rfl, rfl, x, hx, rfl⟩)⟩
    · rw [if_neg hk] at h
      obtain ⟨slots', hput⟩ := ih hslots (fun hmem => free (List.mem_cons_of_mem _ hmem)) h
      exact ⟨_, put_cons_eq_ok.2 (.inr ⟨hk, slots', hput, rfl⟩)⟩

theorem exists_readMembers (distinct : fields.names.Nodup) {given : String → Option Tree}
    {slots : Slots αs} (holds : fields.Holds given slots) {members : List (String × Tree)}
    (once : ((members.map (·.1)).filter (· ∈ fields.names)).Nodup)
    (free : ∀ m ∈ members, m.1 ∈ fields.names → given m.1 = none)
    (h : ∀ m ∈ members, fields.Takes m.1 m.2) :
    ∃ slots', fields.readMembers none (keyed members) slots = .ok slots' := by
  induction members generalizing given slots with
  | nil => exact ⟨slots, rfl⟩
  | cons m members ih =>
    obtain ⟨hfree, hfrees⟩ := List.forall_mem_cons.1 free
    obtain ⟨htakes, hrest⟩ := List.forall_mem_cons.1 h
    rw [List.map_cons, List.filter_cons] at once
    obtain ⟨slots₁, hput⟩ := exists_put holds hfree htakes
    have honce : ((members.map (·.1)).filter (· ∈ fields.names)).Nodup := by
      split at once
      · exact (List.nodup_cons.1 once).2
      · exact once
    -- the field of the first member is given now, and no other member is for it
    obtain ⟨slots', hread⟩ := ih (holds_put distinct holds hput) honce (by
      intro m' hm' hname
      have hne : m.1 ≠ m'.1 := by
        intro heq
        rw [heq, if_pos (by simpa using hname)] at once
        exact (List.nodup_cons.1 once).1 (by simpa using ⟨⟨m'.2, hm'⟩, hname⟩)
      rw [hfrees m' hm' hname, if_neg hne]
      rfl) hrest
    exact ⟨slots', Result.bind_eq_ok.2 ⟨slots₁, hput, hread⟩⟩

theorem exists_fill {given : String → Option Tree} {slots : Slots αs}
    (holds : fields.Holds given slots) {i : Nat}
    (h : fields.Readable (fun name _ => given name) i) : ∃ xs, fields.fill slots = .ok xs := by
  induction fields generalizing i with
  | nil => exact ⟨(), rfl⟩
  | cons f rest ih =>
    obtain ⟨slot, slots⟩ := slots
    obtain ⟨hslot, hslots⟩ := holds
    obtain ⟨⟨x, hx⟩, hrest⟩ := h
    obtain ⟨xs, hfill⟩ := ih hslots hrest
    have hvalue : ∃ y, (slot <|> f.fallback) = some y := by
      have hx : f.Reads (given f.name) x := hx
      generalize given f.name = g at hslot hx
      cases hslot with
      | none => exact ⟨x, hx⟩
      | some _ => exact ⟨_, rfl⟩
    obtain ⟨y, hy⟩ := hvalue
    unfold fill
    rw [hy, hfill]
    exact ⟨(y, xs), rfl⟩

end Fields

/-- A field with a default can do without a value. -/
theorem Field.exists_reads_defaulting {α : Type} {name : String} {c : Codec α} {d : α}
    {given : Option Tree} (h : ∀ t, given = some t → ∃ x, c.read t = .ok x) :
    ∃ x, (defaulting name c d).Reads given x := by
  cases given with
  | none => exact ⟨d, rfl⟩
  | some t => exact h t rfl

/-- **Records are read.**  An object that gives every field at most once, and what it gives so that
it can be read, is read as a record. -/
theorem Codec.exists_read_record {α : Type} {αs : List Type} {title : String} {fields : Fields αs}
    {make : Values αs → α} {parts : α → Values αs} (distinct : fields.names.Nodup) {t : Tree}
    (ht : t.GivesOnce fields.names) (h : fields.Readable (fun name _ => t.member? name) 0) :
    ∃ x, (Codec.record title fields make parts).read t = .ok x := by
  obtain @⟨members, once, skippable⟩ := ht
  have htakes : ∀ m ∈ members, fields.Takes m.1 m.2 := fun m hm =>
    Fields.takes_of_readable h (fun hname _ => memberOf?_keyed_of_mem once hm hname)
      (skippable m hm)
  obtain ⟨slots, hslots⟩ := Fields.exists_readMembers distinct fields.holds_start once
    (fun _ _ _ => rfl) htakes
  have holds := Fields.holds_readMembers distinct fields.holds_start hslots
  obtain ⟨xs, hfill⟩ := Fields.exists_fill holds h
  exact ⟨make xs, Result.bind_eq_ok.2 ⟨slots, hslots, Result.bind_eq_ok.2 ⟨xs, hfill, rfl⟩⟩⟩

/-! ### Plain values -/

/-- The double that a number stands for. -/
def Number.toDouble : Number → Float
  | natural n => n.toFloat
  | negative magnitude => -magnitude.toUInt64.toFloat
  | float x => x

namespace Codec

variable {t : Tree}

theorem read_string_iff {s : String} : string.read t = .ok s ↔ t = .string (some s) := by
  unfold string
  cases t with
  | string o => cases o <;> simp
  | _ => simp

theorem read_bool_iff {b : Bool} : bool.read t = .ok b ↔ t = .bool b := by
  unfold bool
  cases t <;> simp

theorem read_float_iff {x : Float} :
    float.read t = .ok x ↔ ∃ n, t = .number (some n) ∧ x = n.toDouble := by
  unfold float
  cases t with
  | number o =>
    cases o with
    | none => simp
    | some n => cases n <;> simp [Number.toDouble, eq_comm]
  | _ => simp

theorem read_word_iff (wanted : String) {n : UInt64} :
    (word wanted).read t = .ok n ↔ t = .number (some (.natural n)) := by
  unfold word
  cases t with
  | number o =>
    cases o with
    | none => simp
    | some m => cases m <;> simp
  | _ => simp

theorem read_option_iff {α : Type} {c : Codec α} {o : Option α} : (option c).read t = .ok o
    ↔ (t = .null ∧ o = none) ∨ (t ≠ .null ∧ ∃ x, c.read t = .ok x ∧ o = some x) := by
  have hsome : (c.read t).map some = .ok o ↔ ∃ x, c.read t = .ok x ∧ o = some x :=
    Result.map_eq_ok.trans (exists_congr fun _ => and_congr_right fun _ => eq_comm)
  unfold option
  cases t with
  | null => simp [eq_comm]
  | _ => simpa using hsome

theorem read_strings_iff {xs : List String} :
    (list string).read t = .ok xs ↔ t = .array (xs.map fun x => .string (some x)) none := by
  have hitems : ∀ (items : List Tree) (ending : Option Break) (xs : List String),
      readItems string.read ending items = .ok xs ↔
        items = xs.map (fun x => .string (some x)) ∧ ending = none := by
    intro items ending
    induction items with
    | nil =>
      intro xs
      cases ending <;> cases xs <;> simp [readItems]
    | cons item items ih =>
      intro xs
      unfold readItems
      simp only [Result.bind_eq_ok, ih, read_string_iff]
      cases xs <;> simp [pure, Except.pure, and_assoc]
  unfold list
  cases t with
  | array items ending => simpa using hitems items ending xs
  | _ => simp

end Codec

end CodeIdioms.Document
