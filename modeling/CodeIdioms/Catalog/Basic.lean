import CodeIdioms.Catalog.Statistics
import CodeIdioms.Glyph.Registry

/-! # The catalog of idioms

A catalog is an ordered list of idioms with distinct ids and valid confidences.  Its order counts:
among equally trusted idioms the earlier one is reported first.  Glyphs are never taken from the
input; every idiom gets the symbols of its category. -/

namespace CodeIdioms

/-- Why a catalog cannot be built. -/
inductive CatalogError where
  | parse (problem : Document.Problem)
  | unsupportedVersion (found : UInt32)
  | invalidConfidence (id : String) (confidence : Float)
  | duplicateId (id : String)
deriving Repr

/-- The text of an error. -/
def CatalogError.message : CatalogError → String
  | parse p => "failed to parse patterns: " ++ p.message
  | unsupportedVersion n =>
    "unsupported pattern data version " ++ toString n.toNat ++ " (supported: 1)"
  | invalidConfidence id x =>
    "pattern '" ++ id ++ "' has confidence " ++ Decimal.plain x ++ " outside [0, 1]"
  | duplicateId id => "duplicate pattern id '" ++ id ++ "'"

/-- An ordered list of idioms with distinct ids and valid confidences. -/
structure Catalog where
  idioms : List Idiom
  distinct : (idioms.map (·.id)).Nodup
  valid : ∀ p ∈ idioms, p.hasValidConfidence = true

/-! ### Building -/

/-- The first offence of a list of idioms, given the ids before it.  An idiom with an invalid
confidence is refused for that even when its id is taken too. -/
def firstOffence? : List String → List Idiom → Option CatalogError
  | _, [] => none
  | seen, p :: ps =>
    if !p.hasValidConfidence then some (.invalidConfidence p.id p.confidence)
    else if p.id ∈ seen then some (.duplicateId p.id)
    else firstOffence? (p.id :: seen) ps

theorem valid_of_firstOffence? {seen : List String} {ps : List Idiom}
    (h : firstOffence? seen ps = none) : ∀ p ∈ ps, p.hasValidConfidence = true := by
  induction ps generalizing seen with
  | nil => simp
  | cons q qs ih =>
    simp only [firstOffence?] at h
    split at h
    · simp at h
    · next hv =>
      split at h
      · simp at h
      · intro p hp
        rcases List.mem_cons.1 hp with rfl | hp
        · simpa using hv
        · exact ih h p hp

theorem nodup_of_firstOffence? {seen : List String} {ps : List Idiom}
    (h : firstOffence? seen ps = none) :
    (ps.map (·.id)).Nodup ∧ ∀ p ∈ ps, p.id ∉ seen := by
  induction ps generalizing seen with
  | nil => simp
  | cons q qs ih =>
    simp only [firstOffence?] at h
    split at h
    · simp at h
    · split at h
      · simp at h
      · next hseen =>
        obtain ⟨hnd, hout⟩ := ih h
        refine ⟨List.nodup_cons.2 ⟨fun hmem => ?_, hnd⟩, fun p hp => ?_⟩
        · obtain ⟨p, hp, hid⟩ := List.mem_map.1 hmem
          exact hout p hp (hid ▸ List.mem_cons_self)
        · rcases List.mem_cons.1 hp with rfl | hp
          · exact hseen
          · exact fun hmem => hout p hp (List.mem_cons_of_mem _ hmem)

/-- An idiom with the glyphs of its category. -/
def Idiom.withGlyphs (r : Registry) (p : Idiom) : Idiom := { p with glyphs := r.symbolsOf p.category }

namespace Catalog

/-- The catalog with no idioms. -/
def empty : Catalog := ⟨[], List.nodup_nil, by simp⟩

/-- The catalog of a list of idioms, checked. -/
def ofIdioms (ps : List Idiom) (r : Registry) : Except CatalogError Catalog :=
  match h : firstOffence? [] ps with
  | some e => .error e
  | none => .ok {
      idioms := ps.map (·.withGlyphs r)
      distinct := by
        rw [List.map_map]
        exact (nodup_of_firstOffence? h).1
      valid := by
        intro p hp
        obtain ⟨q, hq, rfl⟩ := List.mem_map.1 hp
        exact valid_of_firstOffence? h q hq }

/-- The version of catalog documents that can be read. -/
def supportedVersion : UInt32 := 1

open Document in
/-- The codec of catalog documents: a version and a list of idioms. -/
def documentCodec : Codec (UInt32 × List Idiom) :=
  Codec.record "struct PatternDocument"
    (.cons (required "version" Codec.word32) <|
     .cons (required "patterns" (Codec.list Idiom.codec)) .nil)
    (fun (v, ps, _) => (v, ps))
    fun d => (d.1, d.2, ())

/-- The catalog of a document; its version is checked before its idioms. -/
def ofDocument (document : UInt32 × List Idiom) (r : Registry) : Except CatalogError Catalog :=
  if document.1 = supportedVersion then ofIdioms document.2 r
  else .error (.unsupportedVersion document.1)

/-- A catalog from the text of its document. -/
def read (text : String) (r : Registry) : Except CatalogError Catalog :=
  match documentCodec.readText text with
  | .error p => .error (.parse p)
  | .ok document => ofDocument document r

/-! ### Looking up -/

/-- The idiom of an id. -/
def get? (c : Catalog) (id : String) : Option Idiom := c.idioms.find? (·.id == id)

/-- The idioms of a category, in order. -/
def ofCategory (c : Catalog) (category : Category) : List Idiom :=
  c.idioms.filter (·.category == category)

/-- The idioms of a level, in order. -/
def ofDifficulty (c : Catalog) (difficulty : Difficulty) : List Idiom :=
  c.idioms.filter (·.difficulty == difficulty)

/-- The idioms that bear a tag, in order. -/
def ofTag (c : Catalog) (tag : String) : List Idiom := c.idioms.filter (·.hasTag tag)

/-- The idioms that an idiom names as related, as far as the catalog has them. -/
def related (c : Catalog) (p : Idiom) : List Idiom := p.related.filterMap c.get?

/-- The number of idioms. -/
def count (c : Catalog) : Nat := c.idioms.length

/-- Whether there are no idioms. -/
def isEmpty (c : Catalog) : Bool := c.idioms.isEmpty

/-- The counts of the idioms. -/
def statistics (c : Catalog) : Statistics := Statistics.ofIdioms c.idioms

end Catalog

end CodeIdioms
