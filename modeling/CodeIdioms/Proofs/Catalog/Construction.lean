import CodeIdioms.Catalog.Basic
import CodeIdioms.Proofs.Decimal.Order
import CodeIdioms.Proofs.Index
import Mathlib

/-! # Building catalogs

A list of idioms makes a catalog if and only if every confidence lies between 0 and 1 and all ids
are distinct (`Admissible`); otherwise the error is that of the first idiom that offends, which is
refused for its confidence even when its id is taken too (`FirstOffence`).  The catalog has the same
idioms in the same order with the glyphs of their categories, and lookups find in it what is there
(`IsCatalogOf`).  All of it is `ofIdioms_iff`.

Building is a search for the first fault of a list with distinct keys, so a pass that builds an
index from ids to positions together with the list fails in the same way, and its index finds the
same idioms (`indexed_of_error`, `indexed_of_ok`). -/

namespace CodeIdioms.Catalog

/-! ### Faults -/

/-- Every confidence lies between 0 and 1, and all ids are distinct. -/
structure Admissible (ps : List Idiom) : Prop where
  confident : ∀ p ∈ ps, 0.0 ≤ p.confidence ∧ p.confidence ≤ 1.0
  distinct : (ps.map (·.id)).Nodup

/-- What is wrong with an idiom that stands after others. -/
inductive Offence (before : List Idiom) (p : Idiom) : CatalogError → Prop
  | confidence (outside : ¬ (0.0 ≤ p.confidence ∧ p.confidence ≤ 1.0)) :
      Offence before p (.invalidConfidence p.id p.confidence)
  | id (inside : 0.0 ≤ p.confidence ∧ p.confidence ≤ 1.0) (repeated : p.id ∈ before.map (·.id)) :
      Offence before p (.duplicateId p.id)

/-- The error of the first idiom of a list that offends. -/
inductive FirstOffence (ps : List Idiom) (e : CatalogError) : Prop
  | intro {before after : List Idiom} {p : Idiom} (split : ps = before ++ p :: after)
      (admissible : Admissible before) (offence : Offence before p e)

theorem hasValidConfidence_iff {p : Idiom} :
    p.hasValidConfidence = true ↔ 0.0 ≤ p.confidence ∧ p.confidence ≤ 1.0 := by
  unfold Idiom.hasValidConfidence
  rw [Bool.and_eq_true, decide_eq_true_iff, decide_eq_true_iff]

/-- The fault of an idiom by itself. -/
def refusal? (p : Idiom) : Option CatalogError :=
  if p.hasValidConfidence then none else some (.invalidConfidence p.id p.confidence)

/-- The error of an idiom with an id that is taken. -/
def taken (p : Idiom) : CatalogError := .duplicateId p.id

theorem refusal?_eq_none {p : Idiom} :
    refusal? p = none ↔ 0.0 ≤ p.confidence ∧ p.confidence ≤ 1.0 := by
  unfold refusal?
  rw [← hasValidConfidence_iff]
  simp

theorem refusal?_eq_some {p : Idiom} {e : CatalogError} : refusal? p = some e
    ↔ ¬ (0.0 ≤ p.confidence ∧ p.confidence ≤ 1.0) ∧ e = .invalidConfidence p.id p.confidence := by
  unfold refusal?
  rw [← hasValidConfidence_iff]
  split
  · next h => simp [h]
  · next h =>
    rw [Option.some.injEq, eq_comm]
    exact (and_iff_right h).symm

/-- The first offence of idioms is the first fault of a list whose keys are ids. -/
theorem firstOffence?_eq (seen : List String) (ps : List Idiom) :
    firstOffence? seen ps = firstFault? (·.id) refusal? taken seen ps := by
  induction ps generalizing seen with
  | nil => rfl
  | cons p ps ih =>
    rw [firstOffence?, firstFault?, fault?, ih]
    cases hvalid : p.hasValidConfidence with
    | false =>
      have hrefused : refusal? p = some (.invalidConfidence p.id p.confidence) := by
        simp [refusal?, hvalid]
      simp [hrefused]
    | true =>
      have hfree : refusal? p = none := by simp [refusal?, hvalid]
      by_cases hseen : p.id ∈ seen <;> simp [hfree, hseen, taken]

theorem firstOffence?_eq_none {ps : List Idiom} : firstOffence? [] ps = none ↔ Admissible ps := by
  rw [firstOffence?_eq, firstFault?_eq_none]
  simp only [refusal?_eq_none]
  constructor
  · rintro ⟨hconfident, hdistinct, _⟩
    exact ⟨hconfident, hdistinct⟩
  · rintro ⟨hconfident, hdistinct⟩
    exact ⟨hconfident, hdistinct, by simp⟩

theorem firstOffence?_eq_some {ps : List Idiom} {e : CatalogError} :
    firstOffence? [] ps = some e ↔ FirstOffence ps e := by
  rw [firstOffence?_eq, firstFault?_eq_some]
  constructor
  · rintro ⟨before, p, after, hsplit, hbefore, hp⟩
    rw [← firstOffence?_eq, firstOffence?_eq_none] at hbefore
    refine .intro hsplit hbefore ?_
    obtain hp | ⟨hinside, hrepeated, rfl⟩ := hp
    · obtain ⟨houtside, rfl⟩ := refusal?_eq_some.1 hp
      exact .confidence houtside
    · exact .id (refusal?_eq_none.1 hinside) (by simpa using hrepeated)
  · rintro ⟨hsplit, hbefore, hp⟩
    rw [← firstOffence?_eq_none, firstOffence?_eq] at hbefore
    refine ⟨_, _, _, hsplit, hbefore, ?_⟩
    cases hp with
    | confidence houtside => exact .inl (refusal?_eq_some.2 ⟨houtside, rfl⟩)
    | id hinside hrepeated => exact .inr ⟨refusal?_eq_none.2 hinside, .inl hrepeated, rfl⟩

/-- A NaN is no confidence. -/
theorem not_admissible_of_isNaN {ps : List Idiom} {p : Idiom} (hp : p ∈ ps)
    (h : p.confidence.isNaN = true) : ¬ Admissible ps := by
  intro hps
  rw [(Decimal.not_isNaN_of_le (hps.confident p hp).1).2] at h
  cases h

/-! ### Building -/

variable {ps : List Idiom} {r : Registry} {c : Catalog}

theorem ofIdioms_eq_error {e : CatalogError} :
    ofIdioms ps r = .error e ↔ firstOffence? [] ps = some e := by
  unfold ofIdioms
  split
  · next h => rw [h, Except.error.injEq, Option.some.injEq]
  · next h => simp [h]

theorem ofIdioms_eq_ok : ofIdioms ps r = .ok c
    ↔ firstOffence? [] ps = none ∧ c.idioms = ps.map fun p => p.withGlyphs r := by
  unfold ofIdioms
  split
  · next h => simp [h]
  · next h =>
    obtain ⟨idioms, _, _⟩ := c
    rw [Except.ok.injEq, mk.injEq]
    exact ⟨fun heq => ⟨h, heq.symm⟩, fun heq => heq.2.symm⟩

/-- Idioms make a catalog if and only if none of them offends. -/
theorem exists_ofIdioms_iff : (∃ c, ofIdioms ps r = .ok c) ↔ firstOffence? [] ps = none := by
  constructor
  · rintro ⟨c, hc⟩
    exact (ofIdioms_eq_ok.1 hc).1
  · intro hnone
    cases h : ofIdioms ps r with
    | ok c => exact ⟨c, rfl⟩
    | error e =>
      rw [ofIdioms_eq_error, hnone] at h
      cases h

/-- The catalog of some idioms: they have got their glyphs and keep their order, an id finds the one
idiom with that id, and the idioms related to any idiom are those of the ids that it names. -/
structure IsCatalogOf (ps : List Idiom) (r : Registry) (c : Catalog) : Prop where
  idioms_eq : c.idioms = ps.map fun p => { p with glyphs := r.symbolsOf p.category }
  filter_id (id : String) : c.idioms.filter (·.id == id) = (c.get? id).toList
  related_eq (p : Idiom) :
    c.related p = p.related.flatMap fun id => c.idioms.filter (·.id == id)
  related_ids (p : Idiom) :
    (c.related p).map (·.id) = p.related.filter fun id => c.idioms.any (·.id == id)

theorem filter_id (c : Catalog) (id : String) :
    c.idioms.filter (·.id == id) = (c.get? id).toList :=
  Lookup.filter_eq_toList_find? c.distinct id

theorem related_eq (c : Catalog) (p : Idiom) :
    c.related p = p.related.flatMap fun id => c.idioms.filter (·.id == id) := by
  unfold related
  rw [List.filterMap_eq_flatMap_toList]
  exact List.flatMap_congr fun id _ => (c.filter_id id).symm

/-- The idiom that an id finds has that id, and an id that an idiom has finds one. -/
theorem map_id_get? (c : Catalog) (id : String) :
    (c.get? id).map (·.id) = if c.idioms.any (·.id == id) then some id else none := by
  unfold get?
  cases h : c.idioms.find? (·.id == id) with
  | none =>
    rw [List.find?_eq_none] at h
    simpa using h
  | some p =>
    have hp : p.id = id := by simpa using List.find?_some h
    have hany : c.idioms.any (·.id == id) = true :=
      List.any_eq_true.2 ⟨p, List.mem_of_find?_eq_some h, beq_iff_eq.2 hp⟩
    rw [hany, ← hp]
    rfl

theorem related_ids (c : Catalog) (p : Idiom) :
    (c.related p).map (·.id) = p.related.filter fun id => c.idioms.any (·.id == id) := by
  unfold related
  rw [List.map_filterMap, ← List.filterMap_eq_filter]
  refine List.filterMap_congr fun id _ => ?_
  rw [map_id_get?]
  rfl

theorem isCatalogOf_ofIdioms (h : ofIdioms ps r = .ok c) : IsCatalogOf ps r c where
  idioms_eq := (ofIdioms_eq_ok.1 h).2
  filter_id := c.filter_id
  related_eq := c.related_eq
  related_ids := c.related_ids

/-- **Building catalogs.**  A list of idioms makes a catalog if and only if it is admissible, which
it is not with a NaN; the catalog is that of the idioms; an error is that of the first idiom that
offends; and a document of another version is refused whatever its idioms are. -/
theorem ofIdioms_iff (ps : List Idiom) (r : Registry) :
    ((∃ c, ofIdioms ps r = .ok c) ↔ Admissible ps) ∧
      (∀ p ∈ ps, p.confidence.isNaN = true → ¬ Admissible ps) ∧
      (∀ c, ofIdioms ps r = .ok c → IsCatalogOf ps r c) ∧
      (∀ e, ofIdioms ps r = .error e ↔ FirstOffence ps e) ∧
      ∀ text version, documentCodec.readText text = .ok (version, ps) →
        read text r
          = if version = 1 then ofIdioms ps r else .error (.unsupportedVersion version) := by
  refine ⟨?_, fun p hp => not_admissible_of_isNaN hp, fun c => isCatalogOf_ofIdioms, ?_, ?_⟩
  · rw [← firstOffence?_eq_none]
    exact exists_ofIdioms_iff
  · intro e
    rw [ofIdioms_eq_error, firstOffence?_eq_some]
  · intro text version htext
    unfold read
    rw [htext]
    rfl

/-! ### The index -/

/-- The pass that builds the idioms of a catalog together with the positions of their ids. -/
def indexed (ps : List Idiom) (r : Registry) : Except CatalogError (Index Idiom) :=
  Index.takeAll (·.id) refusal? taken {} (ps.map (·.withGlyphs r))

/-- Glyphs make no difference for the first offence. -/
theorem firstOffence?_map_withGlyphs (seen : List String) (ps : List Idiom) (r : Registry) :
    firstOffence? seen (ps.map (·.withGlyphs r)) = firstOffence? seen ps := by
  induction ps generalizing seen with
  | nil => rfl
  | cons p ps ih =>
    rw [List.map_cons, firstOffence?, firstOffence?, ih]
    rfl

theorem indexed_of_error {e : CatalogError} (h : ofIdioms ps r = .error e) :
    indexed ps r = .error e := by
  rw [ofIdioms_eq_error, ← firstOffence?_map_withGlyphs [] ps r, firstOffence?_eq] at h
  exact Index.takeAll_of_fault Index.inStep_empty h

/-- The pass gives the idioms of the catalog, and its index finds what the catalog finds. -/
theorem indexed_of_ok (h : ofIdioms ps r = .ok c) :
    ∃ x, indexed ps r = .ok x ∧ x.items = c.idioms ∧ ∀ id, x.get? id = c.get? id := by
  obtain ⟨hnone, hidioms⟩ := ofIdioms_eq_ok.1 h
  rw [← firstOffence?_map_withGlyphs [] ps r, firstOffence?_eq] at hnone
  obtain ⟨x, _, hx, hitems, hstep⟩ := Index.takeAll_of_none Index.inStep_empty hnone
  have hx' : x.items = c.idioms := hitems.trans hidioms.symm
  refine ⟨x, hx, hx', fun id => ?_⟩
  rw [Index.get?_eq_find? hstep, hx']
  rfl

end CodeIdioms.Catalog
