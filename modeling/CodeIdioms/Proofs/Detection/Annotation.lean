import CodeIdioms.Catalog.Builtin
import CodeIdioms.Glyph.Builtin
import CodeIdioms.Proofs.Catalog.Construction
import CodeIdioms.Proofs.Detection.Exactness
import CodeIdioms.Proofs.Explain.Builtin
import CodeIdioms.Proofs.Glyph.Construction
import Mathlib

/-! # The glyphs of findings

Whatever a detector finds bears three symbols: those that the registry has for the category of the
idiom, each of which finds a glyph with that symbol (`annotates_of_mem_detect`).  Three steps make
it.  A category table that is accepted lists three known symbols for every category
(`annotates_symbolsOf`), so a look-up in what was read of it never comes away with nothing
(`symbolsOf_addAll`).  A catalog gives every idiom the symbols of its category, whatever glyphs the
idiom had (`glyphs_of_mem_idioms`).  And a detector hands on the idioms of its catalog as they are
(`idiom_mem_of_mem_detect`). -/

namespace CodeIdioms

/-! ### Registries -/

namespace Registry

/-- A registry that has been built: from a category table, or from the text of one. -/
inductive Built (r : Registry) : Prop
  | ofTable {core extended : List Glyph} {table : SortedMap (List String)}
      (build : build core extended (.ok table) = .ok r) : Built r
  | ofText {core extended : List Glyph} {text : String} (read : read core extended text = .ok r) :
      Built r

/-- Symbols that stand for a category: the three that the registry has for it, each of which finds a
glyph of the registry that bears it. -/
structure Annotates (r : Registry) (c : Category) (symbols : List String) : Prop where
  three : symbols.length = 3
  symbolsOf_eq : symbols = r.symbolsOf c
  resolves : ∀ s ∈ symbols, ∃ g ∈ r.all, r.ofSymbol? s = some g ∧ g.symbol = s

variable {core extended : List Glyph} {table : SortedMap (List String)} {r : Registry}

theorem exists_build_of_built (h : r.Built) : ∃ core extended table,
    build core extended (.ok table) = .ok r := by
  cases h with
  | ofTable h => exact ⟨_, _, _, h⟩
  | @ofText core extended text h =>
    refine ⟨core, extended, ?_⟩
    unfold read build at h
    unfold build
    cases hrepeat : firstRepeat? [] ((core ++ extended).map (·.symbol)) with
    | some s =>
      rw [hrepeat] at h
      cases h
    | none =>
      rw [hrepeat] at h
      cases htable : tableCodec.readText text with
      | error p =>
        rw [htable] at h
        cases h
      | ok table =>
        rw [htable] at h
        exact ⟨table, h⟩

/-- A symbol of a glyph finds a glyph that bears it. -/
theorem exists_ofSymbol?_of_mem {s : String} (h : s ∈ r.all.map (·.symbol)) :
    ∃ g ∈ r.all, r.ofSymbol? s = some g ∧ g.symbol = s := by
  obtain ⟨g, hg, hs⟩ := List.mem_map.1 h
  unfold ofSymbol?
  cases hfind : r.all.find? (·.symbol == s) with
  | none => exact absurd (beq_iff_eq.2 hs) (List.find?_eq_none.1 hfind g hg)
  | some g' =>
    have hs' : g'.symbol = s := by simpa using List.find?_some hfind
    exact ⟨g', List.mem_of_find?_eq_some hfind, rfl, hs'⟩

theorem annotates_symbolsOf (h : r.Built) (c : Category) : r.Annotates c (r.symbolsOf c) := by
  obtain ⟨core, extended, table, h⟩ := exists_build_of_built h
  have his := isRegistryOf_build h
  have hall : r.all = core ++ extended := by
    unfold all
    rw [his.core_eq, his.extended_eq]
  obtain ⟨x, hx, _, hsymbols, _⟩ := his.symbolsOf_eq c
  have hvalid := (exists_build_iff.1 ⟨r, h⟩).valid x hx
  refine ⟨hsymbols ▸ hvalid.three, rfl, fun s hs => exists_ofSymbol?_of_mem ?_⟩
  rw [hall]
  exact hvalid.known s (hsymbols ▸ hs)

end Registry

/-- The symbols that have been read for a category, or none if it has not been read. -/
def PartialTriples.symbolsOf (m : PartialTriples) (c : Category) : List String :=
  ((m c).map (·.toList)).getD []

/-- What is read of an accepted table has the symbols of every category. -/
theorem PartialTriples.symbolsOf_addAll {core extended : List Glyph}
    {table : SortedMap (List String)} {r : Registry}
    (h : Registry.build core extended (.ok table) = .ok r) :
    ∃ m, addAll (core ++ extended) table.entries (fun _ => none) = .ok m ∧
      ∀ c, m.symbolsOf c = r.symbolsOf c := by
  have haccepts := Registry.exists_build_iff.1 ⟨r, h⟩
  obtain ⟨m, hm, htold⟩ := addAll_of_valid (m := fun _ => none) haccepts.valid
  have htotal : ∀ c, m c ≠ none := by
    intro c hnone
    obtain ⟨x, hx, hc⟩ := haccepts.total c
    exact (htold c).eq_none_iff.1 hnone x hx hc
  obtain ⟨f, hf, hsome⟩ := complete_of_total htotal
  rw [Registry.build_of_distinct haccepts.distinct, Registry.ofTable, hm] at h
  simp only [bind, Except.bind, hf, pure, Except.pure, Except.ok.injEq] at h
  refine ⟨m, hm, fun c => ?_⟩
  unfold symbolsOf
  rw [hsome, ← h]
  rfl

/-! ### Catalogs -/

namespace Catalog

/-- A catalog that has been built over a registry: from idioms, or from the text of a document. -/
inductive BuiltOver (r : Registry) (c : Catalog) : Prop
  | ofIdioms {ps : List Idiom} (build : ofIdioms ps r = .ok c) : BuiltOver r c
  | ofText {text : String} (read : read text r = .ok c) : BuiltOver r c

variable {r : Registry} {c : Catalog}

theorem exists_ofIdioms_of_builtOver (h : c.BuiltOver r) : ∃ ps, ofIdioms ps r = .ok c := by
  cases h with
  | ofIdioms h => exact ⟨_, h⟩
  | @ofText text h =>
    unfold read at h
    cases hdocument : documentCodec.readText text with
    | error p =>
      rw [hdocument] at h
      cases h
    | ok document =>
      simp only [hdocument, ofDocument] at h
      split at h
      · exact ⟨_, h⟩
      · cases h

/-- The glyphs of the input make no difference: every idiom has the symbols of its category. -/
theorem glyphs_of_mem_idioms (h : c.BuiltOver r) {p : Idiom} (hp : p ∈ c.idioms) :
    p.glyphs = r.symbolsOf p.category := by
  obtain ⟨ps, h⟩ := exists_ofIdioms_of_builtOver h
  rw [(ofIdioms_eq_ok.1 h).2] at hp
  obtain ⟨q, _, rfl⟩ := List.mem_map.1 hp
  rfl

end Catalog

/-! ### Detectors -/

namespace Detector

variable {E : RuleEngine} {source : String}

/-- The finding of a rule is one of the idiom at the position of the rule. -/
theorem getElem?_of_findRule {d : Detector E} {rule : CompiledRule E} {f : Finding}
    (h : d.findRule source rule = some f) : d.catalog.idioms[rule.index]? = some f.idiom := by
  obtain ⟨p, hp, h⟩ := Option.bind_eq_some_iff.1 h
  by_cases hbelow : p.confidence < d.minConfidence
  · rw [if_pos hbelow] at h
    cases h
  · rw [if_neg hbelow] at h
    obtain ⟨range, _, hat⟩ := Option.bind_eq_some_iff.1 h
    rw [hp, (Finding.eq_of_at? hat).1]

theorem idiom_mem_of_mem_detect {d : Detector E} {f : Finding} (h : f ∈ d.detect source) :
    f.idiom ∈ d.catalog.idioms := by
  obtain ⟨rule, _, hrule⟩ := List.mem_filterMap.1 (List.mem_mergeSort.1 h)
  exact List.mem_of_getElem? (getElem?_of_findRule hrule)

/-- **Findings bear the glyphs of their category.**  What a detector finds is an idiom of its
catalog, and if the catalog has been built over a registry that has been built, the glyphs of the
idiom are the three symbols of its category, and each of them finds its glyph. -/
theorem annotates_of_mem_detect {r : Registry} (hr : r.Built) {c : Catalog} (hc : c.BuiltOver r)
    {d : Detector E} (hd : d.catalog = c) {f : Finding} (hf : f ∈ d.detect source) :
    f.idiom ∈ c.idioms ∧ r.Annotates f.idiom.category f.idiom.glyphs := by
  have hmem : f.idiom ∈ c.idioms := hd ▸ idiom_mem_of_mem_detect hf
  refine ⟨hmem, ?_⟩
  rw [Catalog.glyphs_of_mem_idioms hc hmem]
  exact Registry.annotates_symbolsOf hr f.idiom.category

/-- An idiom that comes with glyphs of its own, which no registry has. -/
def mislabelled : Idiom := { Builtin.promiseThen with glyphs := ["?", "", "?", "?"] }

theorem annotates_of_mem_detect_mislabelled :
    ∃ r c f, Registry.Built r ∧ Catalog.BuiltOver r c ∧
      f ∈ (new .standard c {}).detect "load().then(show)" ∧
      f.idiom ∈ c.idioms ∧ r.Annotates f.idiom.category f.idiom.glyphs := by
  obtain ⟨r, hr⟩ := Builtin.exists_registry
  have hnone : firstOffence? [] [mislabelled] = none := by decide
  obtain ⟨c, hc⟩ := Catalog.exists_ofIdioms_iff (r := r).2 hnone
  have hrange : ((RuleEngine.standard.build mislabelled.rule
      ({} : DetectSettings).limits).toOption.bind
        fun program => RuleEngine.standard.find program "load().then(show)") = some (6, 12) := by
    decide +kernel
  have htrusted : ¬ mislabelled.confidence < ({} : DetectSettings).minConfidence := by decide
  have hfires : Fires .standard {} "load().then(show)" (mislabelled.withGlyphs r) 6 12 :=
    fires_of_find hrange htrusted
  have hp : mislabelled.withGlyphs r ∈ c.idioms := by
    rw [(Catalog.ofIdioms_eq_ok.1 hc).2]
    exact List.mem_singleton_self _
  obtain ⟨f, hf, _⟩ := exists_mem_detect_of_fires hp hfires
  exact ⟨r, c, f, .ofTable hr, .ofIdioms hc, hf,
    annotates_of_mem_detect (.ofTable hr) (.ofIdioms hc) rfl hf⟩

end Detector

end CodeIdioms
