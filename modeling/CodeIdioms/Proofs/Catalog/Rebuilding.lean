import CodeIdioms.Proofs.Detection.Annotation
import CodeIdioms.Proofs.Document.RoundTrip
import CodeIdioms.Proofs.Explain.Builtin

/-! # Building catalogs anew

The idioms of a catalog pass the checks of building again, whatever registry they are built over:
what is checked are confidences and ids, and glyphs are neither.  So the idioms of a catalog make a
catalog over every registry, with the glyphs of that registry and otherwise the same
(`ofIdioms_idioms`, `differsInGlyphs_withGlyphs`), and over its own registry it is the same catalog
(`withGlyphs_eq_self`).

Reading gives back the idioms that were written, with the glyphs that they had, so the same goes for
the documents of a catalog (`read_of_isDocumentOf`). -/

namespace CodeIdioms

open Document

theorem Document.Codec.faithful_word32 (n : UInt32) : Codec.word32.Faithful n := by
  have hsize : n.toUInt64.toNat < UInt32.size := by
    rw [UInt32.toNat_toUInt64]
    exact n.toNat_lt
  refine (if_pos hsize).trans ?_
  rw [UInt32.toUInt32_toUInt64]

namespace Catalog

/-! ### Documents -/

/-- A document of some idioms: the supported version and what is written for the idioms, in their
order, where the members of every object may have been rearranged. -/
inductive IsDocumentOf (ps : List Idiom) (v : Value) : Prop
  | intro {vs : List Value}
      (idioms : List.Forall₂ (fun p v => Idiom.codec.Rearranged (Idiom.codec.write p) v) ps vs)
      (document : documentCodec.Rearranged
        (.object [("version", .ofNat 1), ("patterns", .array vs)]) v) : IsDocumentOf ps v

theorem readItems_of_rearranged {ps : List Idiom} {vs : List Value}
    (h : List.Forall₂ (fun p v => Idiom.codec.Rearranged (Idiom.codec.write p) v) ps vs) :
    Codec.readItems Idiom.codec.read none (Value.treeItems vs) = .ok ps := by
  induction h with
  | nil => rfl
  | cons hv _ ih =>
    rw [Value.treeItems, Codec.readItems, Codec.read_of_rearranged hv (Idiom.faithful_codec _), ih]
    rfl

theorem faithful_documentCodec (version : UInt32) (ps : List Idiom) :
    documentCodec.Faithful (version, ps) :=
  Codec.faithful_record (by decide) rfl ⟨Codec.faithful_word32 version,
    Codec.faithful_list fun p _ => Idiom.faithful_codec p, trivial⟩

theorem documentCodec_read_of_isDocumentOf {ps : List Idiom} {v : Value} (h : IsDocumentOf ps v) :
    documentCodec.read v.tree = .ok (1, ps) := by
  obtain @⟨vs, hidioms, hdocument⟩ := h
  refine Codec.read_of_rearranged hdocument ?_
  let patterns := required "patterns" (Codec.list Idiom.codec)
  have hwritten : patterns.codec.read (patterns.codec.write ps).tree = .ok ps :=
    Codec.faithful_list fun p _ => Idiom.faithful_codec p
  have hread : ∀ {qs}, patterns.codec.read (patterns.codec.write ps).tree = .ok qs →
      patterns.codec.read (Value.array vs).tree = .ok qs := by
    intro qs hqs
    rw [← hqs, hwritten]
    exact readItems_of_rearranged hidioms
  -- the document that codecs write for the idioms, before its second member is replaced
  have hdocument : documentCodec.read (Value.object ([("version", .ofNat 1)] ++
      (patterns.name, patterns.codec.write ps) :: [])).tree = .ok (1, ps) :=
    faithful_documentCodec 1 ps
  exact Codec.read_record_part (.there .here (by decide)) hread hdocument

theorem read_of_isDocumentOf {ps : List Idiom} {v : Value} (h : IsDocumentOf ps v) {text : String}
    (htext : Source.read text = ⟨v.tree, false⟩) (r : Registry) : read text r = ofIdioms ps r := by
  unfold read
  rw [documentCodec.readText_eq_read htext, documentCodec_read_of_isDocumentOf h]
  exact if_pos rfl

/-! ### Other glyphs -/

/-- The idioms of a catalog with the glyphs of a registry. -/
def withGlyphs (c : Catalog) (r : Registry) : Catalog where
  idioms := c.idioms.map (·.withGlyphs r)
  distinct := by
    rw [List.map_map]
    exact c.distinct
  valid := by
    intro p hp
    obtain ⟨q, hq, rfl⟩ := List.mem_map.1 hp
    exact c.valid q hq

theorem ofIdioms_idioms (c : Catalog) (r : Registry) :
    ofIdioms c.idioms r = .ok (c.withGlyphs r) := by
  have hadmissible : Admissible c.idioms :=
    ⟨fun p hp => hasValidConfidence_iff.1 (c.valid p hp), c.distinct⟩
  exact ofIdioms_eq_ok.2 ⟨firstOffence?_eq_none.2 hadmissible, rfl⟩

/-- Idioms that have got the glyphs of a registry keep them. -/
theorem withGlyphs_eq_self {c : Catalog} {r : Registry} (h : c.BuiltOver r) :
    c.withGlyphs r = c := by
  have hidioms : c.idioms.map (·.withGlyphs r) = c.idioms := by
    refine (List.map_congr_left fun p hp => ?_).trans (List.map_id _)
    show { p with glyphs := r.symbolsOf p.category } = p
    rw [← glyphs_of_mem_idioms h hp]
  obtain ⟨idioms, _, _⟩ := c
  exact (mk.injEq ..).mpr hidioms

/-- A catalog that differs from another one in its glyphs only, which are those of a registry. -/
structure DiffersInGlyphs (c : Catalog) (r : Registry) (d : Catalog) : Prop where
  idioms_eq : d.idioms = c.idioms.map fun p => { p with glyphs := r.symbolsOf p.category }
  get?_eq (id : String) : d.get? id = (c.get? id).map (·.withGlyphs r)
  related_eq (p : Idiom) : d.related p = (c.related p).map (·.withGlyphs r)
  ofCategory_eq (k : Category) : d.ofCategory k = (c.ofCategory k).map (·.withGlyphs r)
  ofDifficulty_eq (k : Difficulty) : d.ofDifficulty k = (c.ofDifficulty k).map (·.withGlyphs r)
  ofTag_eq (tag : String) : d.ofTag tag = (c.ofTag tag).map (·.withGlyphs r)
  count_eq : d.count = c.count
  statistics_eq : d.statistics = c.statistics

theorem differsInGlyphs_withGlyphs (c : Catalog) (r : Registry) :
    c.DiffersInGlyphs r (c.withGlyphs r) := by
  have hget (id : String) : (c.withGlyphs r).get? id = (c.get? id).map (·.withGlyphs r) :=
    List.find?_map
  exact {
    idioms_eq := rfl
    get?_eq := hget
    related_eq := by
      intro p
      unfold related
      rw [List.map_filterMap]
      exact List.filterMap_congr fun id _ => hget id
    ofCategory_eq := fun k => List.filter_map
    ofDifficulty_eq := fun k => List.filter_map
    ofTag_eq := fun tag => List.filter_map
    count_eq := List.length_map _
    statistics_eq := by
      unfold statistics Statistics.ofIdioms withGlyphs
      rw [List.foldl_map]
      rfl }

/-! ### Building anew -/

/-- Building a catalog anew over a registry gives a catalog, from the idioms of the first one and
from every text of a document of them; the index that is built with it finds what it finds. -/
structure Rebuilds (c : Catalog) (r : Registry) (d : Catalog) : Prop where
  ofIdioms : ofIdioms c.idioms r = .ok d
  read : ∀ v text, IsDocumentOf c.idioms v → Source.read text = ⟨v.tree, false⟩ →
    read text r = .ok d
  index : ∃ x, indexed c.idioms r = .ok x ∧ x.items = d.idioms ∧ ∀ id, x.get? id = d.get? id

theorem rebuilds_withGlyphs (c : Catalog) (r : Registry) : c.Rebuilds r (c.withGlyphs r) where
  ofIdioms := c.ofIdioms_idioms r
  read _ _ hv htext := (read_of_isDocumentOf hv htext r).trans (c.ofIdioms_idioms r)
  index := indexed_of_ok (c.ofIdioms_idioms r)

/-- **Building anew.**  A catalog that has been built over a registry is the one that is built over
it anew, with the same index; and over every other registry a catalog is built too, which differs
from the first one only in its glyphs. -/
theorem rebuilds_of_builtOver {g : Registry} {c : Catalog} (hc : c.BuiltOver g) :
    c.Rebuilds g c ∧ (∀ ps, ofIdioms ps g = .ok c → indexed c.idioms g = indexed ps g) ∧
      ∀ h, ∃ d, c.Rebuilds h d ∧ c.DiffersInGlyphs h d := by
  have hself := withGlyphs_eq_self hc
  refine ⟨?_, fun ps hps => ?_,
    fun h => ⟨_, c.rebuilds_withGlyphs h, c.differsInGlyphs_withGlyphs h⟩⟩
  · have hrebuilds := c.rebuilds_withGlyphs g
    rwa [hself] at hrebuilds
  · unfold indexed
    rw [← (ofIdioms_eq_ok.1 hps).2]
    exact congrArg (fun d => Index.takeAll _ refusal? taken {} d.idioms) hself

/-- The built-in catalog over the built-in registry, and over any other one. -/
theorem rebuilds_builtin :
    ∃ (g : Registry) (c : Catalog), Builtin.registry = .ok g ∧ Builtin.catalog g = .ok c ∧
      c.BuiltOver g ∧ c.Rebuilds g c ∧
      ∀ h : Registry, ∃ d : Catalog, c.Rebuilds h d ∧ c.DiffersInGlyphs h d := by
  obtain ⟨g, hg⟩ := Builtin.exists_registry
  obtain ⟨c, hc⟩ := Builtin.exists_catalog g
  have hbuilt : c.BuiltOver g := .ofIdioms hc
  obtain ⟨hself, -, hothers⟩ := rebuilds_of_builtOver hbuilt
  exact ⟨g, c, hg, hc, hbuilt, hself, hothers⟩

end Catalog

end CodeIdioms
