import CodeIdioms.Glyph.Registry
import CodeIdioms.Proofs.Document.Faithful
import CodeIdioms.Proofs.Index
import CodeIdioms.Proofs.Text.ByteOrder
import Mathlib

/-! # Building registries

Two tables of glyphs and a category table make a registry if and only if all symbols are distinct,
every entry names a category and lists three of the symbols, and every category is named
(`Accepts`); otherwise there is one fault that is told: a symbol that is repeated, or else the fault
of the bad entry with the least key, or else the first category that no entry names (`Fault`).
Either is the case, and never both, since both say what building gives (`accepts_or_fault`,
`build_of_accepts`, `build_of_fault`).

Several keys can name one category.  Entries are taken in the order of their keys, and every entry
replaces what was taken for its category, so a category has the symbols of the greatest key that
names it (`addAll_of_valid`).  The order of keys is that of their bytes. -/

namespace CodeIdioms

open Lookup

/-! ### Triples -/

namespace Triple

theorem ofList?_eq_some {symbols : List String} {t : Triple} :
    ofList? symbols = some t ↔ symbols = t.toList := by
  constructor
  · intro h
    unfold ofList? at h
    split at h
    · obtain rfl := Option.some.inj h
      rfl
    · cases h
  · rintro rfl
    rfl

theorem ofList?_eq_none {symbols : List String} : ofList? symbols = none ↔ symbols.length ≠ 3 := by
  constructor
  · intro h hlength
    obtain ⟨a, b, c, rfl⟩ := List.length_eq_three.1 hlength
    cases h
  · intro h
    cases ht : ofList? symbols with
    | none => rfl
    | some t => exact absurd (congrArg List.length (ofList?_eq_some.1 ht)) h

end Triple

/-! ### One entry -/

/-- An entry names a category and lists three symbols of glyphs. -/
structure EntryValid (glyphs : List Glyph) (x : String × List String) : Prop where
  named : ∃ c, Category.ofSpelling x.1 = .ok c
  known : ∀ s ∈ x.2, s ∈ glyphs.map (·.symbol)
  three : x.2.length = 3

/-- What is wrong with an entry: its key names no category, or else it lists a symbol that no glyph
has, or else it does not list three symbols. -/
inductive EntryFault (glyphs : List Glyph) (x : String × List String) : RegistryError → Prop
  | unknownCategory (unnamed : ∀ c, Category.ofSpelling x.1 ≠ .ok c) :
      EntryFault glyphs x (.unknownCategory x.1)
  | unknownGlyph {c : Category} {s : String} (named : Category.ofSpelling x.1 = .ok c)
      (first : First (· ∉ glyphs.map (·.symbol)) x.2 s) : EntryFault glyphs x (.unknownGlyph c s)
  | glyphCount {c : Category} (named : Category.ofSpelling x.1 = .ok c)
      (known : ∀ s ∈ x.2, s ∈ glyphs.map (·.symbol)) (wrong : x.2.length ≠ 3) :
      EntryFault glyphs x (.glyphCount c x.2.length)

/-- No entry names a category. -/
def Unnamed (es : List (String × List String)) (c : Category) : Prop :=
  ∀ x ∈ es, Category.ofSpelling x.1 ≠ .ok c

section
variable {m : PartialTriples} {glyphs : List Glyph} {x : String × List String} {e : RegistryError}

theorem isUnknown_iff (s : String) :
    (!glyphs.any (·.symbol == s)) = true ↔ s ∉ glyphs.map (·.symbol) := by
  simp

theorem find?_unknown_eq_none {symbols : List String}
    (h : ∀ s ∈ symbols, s ∈ glyphs.map (·.symbol)) :
    (symbols.find? fun s => !glyphs.any (·.symbol == s)) = none :=
  (find?_eq_none_iff isUnknown_iff).2 fun s hs => not_not_intro (h s hs)

theorem EntryFault.not_valid (h : EntryFault glyphs x e) : ¬ EntryValid glyphs x := by
  rintro ⟨⟨c, hc⟩, hknown, hthree⟩
  cases h with
  | unknownCategory unnamed => exact unnamed c hc
  | unknownGlyph _ first => exact first.found (hknown _ first.mem)
  | glyphCount _ _ wrong => exact wrong hthree

/-- Exactly the entries that are not valid have a fault. -/
theorem exists_entryFault_iff : (∃ e, EntryFault glyphs x e) ↔ ¬ EntryValid glyphs x := by
  refine ⟨fun ⟨e, h⟩ => h.not_valid, fun hinvalid => ?_⟩
  cases hc : Category.ofSpelling x.1 with
  | error _ =>
    refine ⟨_, .unknownCategory fun c h => ?_⟩
    rw [hc] at h
    cases h
  | ok c =>
    cases hs : x.2.find? fun s => !glyphs.any (·.symbol == s) with
    | some s => exact ⟨_, .unknownGlyph hc ((find?_eq_some_iff isUnknown_iff).1 hs)⟩
    | none =>
      have hknown : ∀ s ∈ x.2, s ∈ glyphs.map (·.symbol) := fun s h =>
        not_not.1 ((find?_eq_none_iff isUnknown_iff).1 hs s h)
      exact ⟨_, .glyphCount hc hknown fun hthree => hinvalid ⟨⟨c, hc⟩, hknown, hthree⟩⟩

namespace PartialTriples

theorem add_of_fault (h : EntryFault glyphs x e) : m.add glyphs x.1 x.2 = .error e := by
  unfold add
  cases h with
  | unknownCategory unnamed =>
    cases hc : Category.ofSpelling x.1 with
    | error _ => rfl
    | ok c => exact absurd hc (unnamed c)
  | unknownGlyph named first =>
    rw [named]
    simp only [(find?_eq_some_iff isUnknown_iff).2 first]
  | glyphCount named known wrong =>
    rw [named]
    simp only [find?_unknown_eq_none known, Triple.ofList?_eq_none.2 wrong]

/-- A valid entry gives its symbols to its category. -/
theorem add_of_valid (h : EntryValid glyphs x) :
    ∃ c t, Category.ofSpelling x.1 = .ok c ∧ x.2 = t.toList ∧
      m.add glyphs x.1 x.2 = .ok fun c' => if c' = c then some t else m c' := by
  obtain ⟨⟨c, hc⟩, hknown, hthree⟩ := h
  cases ht : Triple.ofList? x.2 with
  | none => exact absurd hthree (Triple.ofList?_eq_none.1 ht)
  | some t =>
    refine ⟨c, t, hc, Triple.ofList?_eq_some.1 ht, ?_⟩
    unfold add
    rw [hc]
    simp only [find?_unknown_eq_none hknown, ht]

/-! ### The table -/

/-- The entries are taken up to the first one at fault. -/
theorem addAll_of_fault {before after : List (String × List String)}
    (hbefore : ∀ y ∈ before, EntryValid glyphs y) (hx : EntryFault glyphs x e) :
    addAll glyphs (before ++ x :: after) m = .error e := by
  induction before generalizing m with
  | nil =>
    rw [List.nil_append, addAll, add_of_fault hx]
    rfl
  | cons y before ih =>
    obtain ⟨hy, hbefore⟩ := List.forall_mem_cons.1 hbefore
    obtain ⟨c, t, _, _, hadd⟩ := add_of_valid (m := m) hy
    rw [List.cons_append, addAll, hadd]
    exact ih hbefore

/-- What is known of a category after some entries: the symbols of the last entry that names it, or
what was known before. -/
inductive Told (m : PartialTriples) (es : List (String × List String)) (c : Category) :
    Option Triple → Prop
  | last {before after : List (String × List String)} {x : String × List String} {t : Triple}
      (split : es = before ++ x :: after) (named : Category.ofSpelling x.1 = .ok c)
      (symbols : x.2 = t.toList) (unnamed : Unnamed after c) : Told m es c (some t)
  | before (unnamed : Unnamed es c) : Told m es c (m c)

theorem told_cons {es : List (String × List String)} {c c' : Category} {t : Triple}
    {o : Option Triple} (hx : Category.ofSpelling x.1 = .ok c) (ht : x.2 = t.toList)
    (h : Told (fun c' => if c' = c then some t else m c') es c' o) : Told m (x :: es) c' o := by
  cases h with
  | last split named symbols unnamed =>
    exact .last (split ▸ (List.cons_append ..).symm) named symbols unnamed
  | before unnamed =>
    by_cases hc : c' = c
    · rw [if_pos hc]
      exact .last (List.nil_append _).symm (hc ▸ hx) ht unnamed
    · rw [if_neg hc]
      refine .before (List.forall_mem_cons.2 ⟨fun h => hc ?_, unnamed⟩)
      rw [hx, Except.ok.injEq] at h
      exact h.symm

theorem Told.eq_none_iff {es : List (String × List String)} {c : Category} {o : Option Triple}
    (h : Told (fun _ => none) es c o) : o = none ↔ Unnamed es c := by
  cases h with
  | @last before after x t split named _ _ =>
    have hmem : x ∈ es := split ▸ List.mem_append_cons_self
    exact iff_of_false (Option.some_ne_none t) fun h => h x hmem named
  | before unnamed => exact iff_of_true rfl unnamed

/-- Valid entries are all taken. -/
theorem addAll_of_valid {es : List (String × List String)} (h : ∀ x ∈ es, EntryValid glyphs x) :
    ∃ m', addAll glyphs es m = .ok m' ∧ ∀ c, Told m es c (m' c) := by
  induction es generalizing m with
  | nil => exact ⟨m, rfl, fun c => .before (by simp [Unnamed])⟩
  | cons x es ih =>
    obtain ⟨hx, hes⟩ := List.forall_mem_cons.1 h
    obtain ⟨c, t, hc, ht, hadd⟩ := add_of_valid (m := m) hx
    obtain ⟨m', hm', htold⟩ := ih hes
    refine ⟨m', ?_, fun c' => told_cons hc ht (htold c')⟩
    rw [addAll, hadd]
    exact hm'

theorem complete_of_missing {c : Category} (h : First (fun c => m c = none) Category.all c) :
    m.complete = .error (.missingCategory c) := by
  have hfind := (find?_eq_some_iff fun c => Option.isNone_iff_eq_none).2 h
  unfold complete
  split
  · next c' hc' =>
    rw [hfind, Option.some.injEq] at hc'
    rw [hc']
  · next hnone =>
    rw [hfind] at hnone
    cases hnone

theorem complete_of_total (h : ∀ c, m c ≠ none) :
    ∃ f, m.complete = .ok f ∧ ∀ c, m c = some (f c) := by
  unfold complete
  split
  · next c hc =>
    have hnone := List.find?_some hc
    exact absurd (Option.isNone_iff_eq_none.1 hnone) (h c)
  · exact ⟨_, rfl, fun c => (Option.some_get _).symm⟩

end PartialTriples

end

/-! ### Registries -/

namespace Registry

/-- The first symbol of a list of glyphs that an earlier glyph has. -/
inductive FirstRepeat (glyphs : List Glyph) : String → Prop
  | intro {before after : List Glyph} {g : Glyph} (split : glyphs = before ++ g :: after)
      (distinct : (before.map (·.symbol)).Nodup) (repeated : g.symbol ∈ before.map (·.symbol)) :
      FirstRepeat glyphs g.symbol

/-- The repeats of symbols are the faults of a list whose keys are symbols. -/
theorem firstRepeat?_eq (seen : List String) (glyphs : List Glyph) :
    firstRepeat? seen (glyphs.map (·.symbol))
      = firstFault? (·.symbol) (fun _ => none) (·.symbol) seen glyphs := by
  induction glyphs generalizing seen with
  | nil => rfl
  | cons g glyphs ih =>
    rw [List.map_cons, firstRepeat?, firstFault?, fault?, ih]
    by_cases hseen : g.symbol ∈ seen <;> simp [hseen]

theorem firstRepeat?_eq_none {glyphs : List Glyph} :
    firstRepeat? [] (glyphs.map (·.symbol)) = none ↔ (glyphs.map (·.symbol)).Nodup := by
  rw [firstRepeat?_eq, firstFault?_eq_none]
  simp

theorem firstRepeat?_eq_some {glyphs : List Glyph} {s : String} :
    firstRepeat? [] (glyphs.map (·.symbol)) = some s ↔ FirstRepeat glyphs s := by
  rw [firstRepeat?_eq, firstFault?_eq_some]
  constructor
  · rintro ⟨before, g, after, hsplit, hbefore, hg⟩
    rw [← firstRepeat?_eq, firstRepeat?_eq_none] at hbefore
    obtain hg | ⟨_, hrepeated, rfl⟩ := hg
    · cases hg
    · exact .intro hsplit hbefore (by simpa using hrepeated)
  · rintro ⟨hsplit, hbefore, hrepeated⟩
    rw [← firstRepeat?_eq_none, firstRepeat?_eq] at hbefore
    exact ⟨_, _, _, hsplit, hbefore, .inr ⟨rfl, .inl hrepeated, rfl⟩⟩

variable (core extended : List Glyph) (table : SortedMap (List String))

/-- Two tables of glyphs and a category table fit together. -/
structure Accepts : Prop where
  distinct : ((core ++ extended).map (·.symbol)).Nodup
  valid : ∀ x ∈ table.entries, EntryValid (core ++ extended) x
  total : ∀ c, ∃ x ∈ table.entries, Category.ofSpelling x.1 = .ok c

/-- Why two tables of glyphs and a category table do not fit together: a symbol is repeated, or else
an entry is at fault and all with smaller keys are valid, or else a category is named by no entry and
all before it are. -/
inductive Fault : RegistryError → Prop
  | duplicateGlyph {s : String} (first : FirstRepeat (core ++ extended) s) :
      Fault (.duplicateGlyph s)
  | entry {x : String × List String} {e : RegistryError}
      (distinct : ((core ++ extended).map (·.symbol)).Nodup) (mem : x ∈ table.entries)
      (fault : EntryFault (core ++ extended) x e)
      (least : ∀ y ∈ table.entries, Text.BytesBefore y.1 x.1 → EntryValid (core ++ extended) y) :
      Fault e
  | missingCategory {c : Category} (distinct : ((core ++ extended).map (·.symbol)).Nodup)
      (valid : ∀ x ∈ table.entries, EntryValid (core ++ extended) x)
      (first : First (Unnamed table.entries) Category.all c) : Fault (.missingCategory c)

/-- The registry of two tables of glyphs and a category table: a symbol finds the one glyph with
that symbol, and a category has the symbols of the greatest key that names it. -/
structure IsRegistryOf (r : Registry) : Prop where
  core_eq : r.core = core
  extended_eq : r.extended = extended
  filter_symbol (s : String) : (core ++ extended).filter (·.symbol == s) = (r.ofSymbol? s).toList
  symbolsOf_eq (c : Category) : ∃ x ∈ table.entries, Category.ofSpelling x.1 = .ok c ∧
    r.symbolsOf c = x.2 ∧
    ∀ y ∈ table.entries, Category.ofSpelling y.1 = .ok c → y.1 = x.1 ∨ Text.BytesBefore y.1 x.1

variable {core extended table}

theorem build_of_distinct (h : ((core ++ extended).map (·.symbol)).Nodup) :
    build core extended (.ok table) = ofTable core extended table := by
  unfold build
  rw [firstRepeat?_eq_none.2 h]

/-- The entries before an entry of a table are those with smaller keys. -/
theorem mem_before_iff {before after : List (String × List String)} {x y : String × List String}
    (h : table.entries = before ++ x :: after) :
    y ∈ before ↔ y ∈ table.entries ∧ Text.BytesBefore y.1 x.1 := by
  rw [SortedMap.mem_before_iff (h ▸ table.ascending), ← h, Text.lt_iff_bytesBefore]

theorem build_of_fault {e : RegistryError} (h : Fault core extended table e) :
    build core extended (.ok table) = .error e := by
  cases h with
  | duplicateGlyph first =>
    unfold build
    rw [firstRepeat?_eq_some.2 first]
  | entry distinct mem fault least =>
    obtain ⟨before, after, hsplit⟩ := List.append_of_mem mem
    have hbefore : ∀ y ∈ before, EntryValid (core ++ extended) y := by
      intro y hy
      obtain ⟨hmem, hkey⟩ := (mem_before_iff hsplit).1 hy
      exact least y hmem hkey
    rw [build_of_distinct distinct, ofTable, hsplit, PartialTriples.addAll_of_fault hbefore fault]
    rfl
  | missingCategory distinct valid first =>
    obtain ⟨m, hm, htold⟩ := PartialTriples.addAll_of_valid (m := fun _ => none) valid
    have hnone : (fun c => m c = none) = Unnamed table.entries :=
      funext fun c => propext (htold c).eq_none_iff
    rw [← hnone] at first
    rw [build_of_distinct distinct, ofTable, hm]
    simp only [bind, Except.bind, PartialTriples.complete_of_missing first]

theorem build_of_accepts (h : Accepts core extended table) :
    ∃ r, build core extended (.ok table) = .ok r ∧ IsRegistryOf core extended table r := by
  obtain ⟨m, hm, htold⟩ := PartialTriples.addAll_of_valid (m := fun _ => none) h.valid
  have htotal : ∀ c, m c ≠ none := by
    intro c hnone
    obtain ⟨x, hx, hc⟩ := h.total c
    exact (htold c).eq_none_iff.1 hnone x hx hc
  obtain ⟨f, hf, hsome⟩ := PartialTriples.complete_of_total htotal
  refine ⟨⟨core, extended, f⟩, ?_, rfl, rfl, fun s => ?_, fun c => ?_⟩
  · rw [build_of_distinct h.distinct, ofTable, hm]
    simp only [bind, Except.bind, hf]
    rfl
  · exact filter_eq_toList_find? h.distinct s
  · have hc := hsome c ▸ htold c
    cases hc with
    | @last before after x t split named symbols unnamed =>
      have hx : x ∈ table.entries := split ▸ List.mem_append_cons_self
      refine ⟨x, hx, named, symbols.symm, fun y hy hyc => ?_⟩
      rw [split] at hy
      obtain hy | hy := List.mem_append.1 hy
      · exact .inr ((mem_before_iff split).1 hy).2
      · obtain rfl | hy := List.mem_cons.1 hy
        · exact .inl rfl
        · exact absurd hyc (unnamed y hy)

variable (core extended table) in
theorem accepts_or_fault : Accepts core extended table ∨ ∃ e, Fault core extended table e := by
  cases hrepeat : firstRepeat? [] ((core ++ extended).map (·.symbol)) with
  | some s => exact .inr ⟨_, .duplicateGlyph (firstRepeat?_eq_some.1 hrepeat)⟩
  | none =>
    have distinct := firstRepeat?_eq_none.1 hrepeat
    by_cases valid : ∀ x ∈ table.entries, EntryValid (core ++ extended) x
    · by_cases total : ∀ c, ∃ x ∈ table.entries, Category.ofSpelling x.1 = .ok c
      · exact .inl ⟨distinct, valid, total⟩
      · push Not at total
        obtain ⟨c, hc⟩ := total
        obtain ⟨c, first⟩ := exists_first (P := Unnamed table.entries) (Category.mem_all c) hc
        exact .inr ⟨_, .missingCategory distinct valid first⟩
    · push Not at valid
      obtain ⟨x, hmem, hx⟩ := valid
      obtain ⟨x, first⟩ :=
        exists_first (P := fun x => ¬ EntryValid (core ++ extended) x) hmem hx
      obtain ⟨e, fault⟩ := exists_entryFault_iff.2 first.found
      refine .inr ⟨e, .entry distinct first.mem fault fun y hy hkey => ?_⟩
      obtain ⟨split, hbefore, _⟩ := first
      exact not_not.1 (hbefore y ((mem_before_iff split).2 ⟨hy, hkey⟩))

theorem exists_build_iff :
    (∃ r, build core extended (.ok table) = .ok r) ↔ Accepts core extended table := by
  constructor
  · rintro ⟨r, h⟩
    refine (accepts_or_fault core extended table).resolve_right ?_
    rintro ⟨e, fault⟩
    rw [build_of_fault fault] at h
    cases h
  · intro h
    obtain ⟨r, hr, _⟩ := build_of_accepts h
    exact ⟨r, hr⟩

theorem isRegistryOf_build {r : Registry} (h : build core extended (.ok table) = .ok r) :
    IsRegistryOf core extended table r := by
  obtain ⟨r', hr', his⟩ := build_of_accepts (exists_build_iff.1 ⟨r, h⟩)
  rw [h, Except.ok.injEq] at hr'
  exact hr' ▸ his

theorem build_eq_error {e : RegistryError} :
    build core extended (.ok table) = .error e ↔ Fault core extended table e := by
  refine ⟨fun h => ?_, build_of_fault⟩
  obtain accepts | ⟨e', fault⟩ := accepts_or_fault core extended table
  · obtain ⟨r, hr, _⟩ := build_of_accepts accepts
    rw [hr] at h
    cases h
  · rw [build_of_fault fault, Except.error.injEq] at h
    exact h ▸ fault

/-! ### Documents -/

/-- A repeated symbol is told whatever the text of the category table is. -/
theorem read_of_firstRepeat {s : String} (h : FirstRepeat (core ++ extended) s) (text : String) :
    read core extended text = .error (.duplicateGlyph s) := by
  unfold read build
  rw [firstRepeat?_eq_some.2 h]

/-- The document of a category table that lists entries in some order. -/
def document (es : List (String × List String)) : Document.Value :=
  (Document.Codec.list Document.Codec.string).object es

theorem read_document (es : List (String × List String)) :
    tableCodec.read (document es).tree = .ok (SortedMap.ofList es) :=
  Document.Codec.read_map_object fun _ _ =>
    Document.Codec.faithful_list fun s _ => Document.Codec.faithful_string s

/-- Documents with the same entries in another order are the same table. -/
theorem read_document_perm {es es' : List (String × List String)} (hperm : es.Perm es')
    (hkeys : (es.map (·.1)).Nodup) :
    tableCodec.read (document es).tree = tableCodec.read (document es').tree := by
  rw [read_document, read_document]
  exact congrArg Except.ok (SortedMap.foldl_insert_perm hperm hkeys SortedMap.empty)

variable (core extended) in
/-- **Building registries.**  Tables that fit together make their registry; of others the fault is
told, a repeated symbol before the text of the category table is read; and the order of entries in a
document makes no difference. -/
theorem build_iff :
    (∀ table, (∃ r, build core extended (.ok table) = .ok r) ↔ Accepts core extended table) ∧
      (∀ table r, build core extended (.ok table) = .ok r →
        IsRegistryOf core extended table r) ∧
      (∀ table e, build core extended (.ok table) = .error e ↔ Fault core extended table e) ∧
      (∀ text s, FirstRepeat (core ++ extended) s →
        read core extended text = .error (.duplicateGlyph s)) ∧
      (∀ text table, tableCodec.readText text = .ok table →
        read core extended text = build core extended (.ok table)) ∧
      ∀ es es', es.Perm es' → (es.map (·.1)).Nodup →
        build core extended (tableCodec.read (document es).tree)
          = build core extended (tableCodec.read (document es').tree) := by
  refine ⟨fun _ => exists_build_iff, fun _ _ => isRegistryOf_build, fun _ _ => build_eq_error,
    fun text _ h => read_of_firstRepeat h text, fun text table h => ?_, fun es es' hperm hkeys => ?_⟩
  · unfold read
    rw [h]
  · rw [read_document_perm hperm hkeys]

/-! ### The index of symbols -/

/-- The pass that builds the index from symbols to glyphs. -/
def indexed (glyphs : List Glyph) : Except String (Index Glyph) :=
  Index.takeAll (·.symbol) (fun _ => none) (·.symbol) {} glyphs

theorem indexed_of_firstRepeat {glyphs : List Glyph} {s : String} (h : FirstRepeat glyphs s) :
    indexed glyphs = .error s := by
  rw [← firstRepeat?_eq_some, firstRepeat?_eq] at h
  exact Index.takeAll_of_fault Index.inStep_empty h

/-- The index of the glyphs of a registry finds what the registry finds. -/
theorem indexed_all {r : Registry} (h : build core extended (.ok table) = .ok r) :
    ∃ x, indexed r.all = .ok x ∧ x.items = r.all ∧ ∀ s, x.get? s = r.ofSymbol? s := by
  have his := isRegistryOf_build h
  have hnone : firstRepeat? [] (r.all.map (·.symbol)) = none := by
    unfold all
    rw [his.core_eq, his.extended_eq, firstRepeat?_eq_none]
    exact (exists_build_iff.1 ⟨r, h⟩).distinct
  rw [firstRepeat?_eq] at hnone
  obtain ⟨x, _, hx, hitems, hstep⟩ := Index.takeAll_of_none Index.inStep_empty hnone
  rw [List.nil_append] at hitems
  refine ⟨x, hx, hitems, fun s => ?_⟩
  rw [Index.get?_eq_find? hstep, hitems]
  rfl

end Registry

end CodeIdioms
