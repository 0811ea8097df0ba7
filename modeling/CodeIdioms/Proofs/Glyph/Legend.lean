import CodeIdioms.Glyph.Registry
import CodeIdioms.Proofs.Splitting
import Mathlib.Data.List.Basic

/-! # The legend of glyphs

The legend looks through all glyphs once for every concept, and has a part for those concepts that
some glyph denotes.  Here its text is given by its lines (`legend_eq`).  The order of the legend has
every concept once, so all glyphs are shown, each of them once, sorted by the places of their concepts
in that order and then by their places in the registry (`legend_shows`). -/

namespace CodeIdioms

/-! ### The order of concepts -/

namespace Concept

/-- The place of a concept in the legend. -/
def legendPlace (c : Concept) : Nat := legendOrder.idxOf c

theorem mem_legendOrder (c : Concept) : c ∈ legendOrder := by cases c <;> decide

theorem nodup_legendOrder : legendOrder.Nodup := by decide

theorem pairwise_legendPlace : legendOrder.Pairwise fun c c' => c.legendPlace < c'.legendPlace := by
  decide

end Concept

namespace Registry

/-! ### The lines -/

/-- A part of the legend: a concept with the glyphs that denote it. -/
abbrev LegendPart := Concept × List Glyph

/-- The line of a glyph: its symbol, its name, its meaning and an example of its use. -/
def glyphLine (g : Glyph) : String :=
  "- `" ++ g.symbol ++ "` **" ++ g.name ++ "**: " ++ g.meaning ++ " Example: `" ++ g.usage ++ "`"

/-- The lines of a part: a heading between empty lines, then the glyphs. -/
def partLines (part : LegendPart) : List String :=
  "" :: ("## " ++ part.1.label) :: "" :: part.2.map glyphLine

/-- The lines of a legend: the title, then the parts. -/
def legendLines (parts : List LegendPart) : List String := "# Glyph Legend" :: parts.flatMap partLines

/-- Lines with their ends. -/
def ofLines (lines : List String) : String := String.join (lines.map (· ++ "\n"))

theorem ofLines_cons (line : String) (lines : List String) :
    ofLines (line :: lines) = line ++ "\n" ++ ofLines lines := by
  unfold ofLines
  rw [List.map_cons, String.join_cons]

theorem ofLines_append (lines lines' : List String) :
    ofLines (lines ++ lines') = ofLines lines ++ ofLines lines' := by
  unfold ofLines
  rw [List.map_append, String.join_append]

theorem bullet_eq (g : Glyph) : bullet g = glyphLine g ++ "\n" := by
  simp [bullet, glyphLine, ← String.toList_inj]

theorem ofLines_partLines (c : Concept) (gs : List Glyph) :
    ofLines (partLines (c, gs)) = "\n## " ++ c.label ++ "\n\n" ++ String.join (gs.map bullet) := by
  have hglyphs : ofLines (gs.map glyphLine) = String.join (gs.map bullet) := by
    unfold ofLines
    rw [List.map_map, funext bullet_eq]
    rfl
  rw [partLines, ofLines_cons, ofLines_cons, ofLines_cons, hglyphs]
  simp [← String.toList_inj]

/-- The parts of the legend for some concepts: those that a glyph denotes. -/
def partsOf (r : Registry) (cs : List Concept) : List LegendPart :=
  (cs.filter fun c => !(r.ofConcept c).isEmpty).map fun c => (c, r.ofConcept c)

theorem partsOf_cons_of_nil {r : Registry} {c : Concept} (h : r.ofConcept c = [])
    (cs : List Concept) : r.partsOf (c :: cs) = r.partsOf cs := by
  simp [partsOf, h]

theorem partsOf_cons_of_ne_nil {r : Registry} {c : Concept} (h : r.ofConcept c ≠ [])
    (cs : List Concept) : r.partsOf (c :: cs) = (c, r.ofConcept c) :: r.partsOf cs := by
  simp [partsOf, h]

/-- A concept that no glyph denotes leaves nothing in the legend. -/
theorem join_legendPart (r : Registry) (cs : List Concept) :
    String.join (cs.map r.legendPart) = ofLines ((r.partsOf cs).flatMap partLines) := by
  induction cs with
  | nil => rfl
  | cons c cs ih =>
    rw [List.map_cons, String.join_cons, ih]
    cases hc : r.ofConcept c with
    | nil =>
      have hpart : r.legendPart c = "" := by
        unfold legendPart
        rw [hc]
      rw [hpart, partsOf_cons_of_nil hc, String.empty_append]
    | cons g gs =>
      have hpart : r.legendPart c = ofLines (partLines (c, r.ofConcept c)) := by
        unfold legendPart
        rw [hc, ofLines_partLines]
      have hne : r.ofConcept c ≠ [] := by simp [hc]
      rw [hpart, partsOf_cons_of_ne_nil hne, List.flatMap_cons, ofLines_append]

theorem legend_eq (r : Registry) :
    r.legend = ofLines (legendLines (r.partsOf Concept.legendOrder)) := by
  unfold legend legendLines
  rw [ofLines_cons, join_legendPart]
  rfl

/-! ### The glyphs -/

/-- The order of glyphs in the legend, given with their places in the registry: by the places of
their concepts in the legend, and for one concept by their places in the registry. -/
def ShownBefore (a b : Glyph × Nat) : Prop :=
  a.1.concept.legendPlace < b.1.concept.legendPlace ∨
    a.1.concept.legendPlace = b.1.concept.legendPlace ∧ a.2 < b.2

/-- The parts of the legend of a registry, and the glyphs in it with their places in the registry:
the parts are those of the concepts that a glyph denotes, each with all of its glyphs, and they show
the glyph of every place once, in order. -/
structure IsLegend (r : Registry) (parts : List LegendPart) (shown : List (Glyph × Nat)) : Prop where
  order : (parts.map (·.1)).Sublist Concept.legendOrder
  concepts (c : Concept) : c ∈ parts.map (·.1) ↔ ∃ g ∈ r.all, g.concept = c
  glyphs : ∀ part ∈ parts, part.2 = r.ofConcept part.1
  shows : shown.map (·.1) = parts.flatMap (·.2)
  perm : shown.Perm r.all.zipIdx
  sorted : shown.Pairwise ShownBefore

/-- The glyphs with their places in the registry, for one concept of the legend after the other. -/
def shown (r : Registry) : List (Glyph × Nat) :=
  Concept.legendOrder.flatMap fun c => r.all.zipIdx.filter (·.1.concept == c)

theorem map_shown (r : Registry) :
    r.shown.map (·.1) = Concept.legendOrder.flatMap r.ofConcept := by
  unfold shown
  rw [List.map_flatMap]
  apply List.flatMap_congr
  intro c _
  conv => rhs; rw [ofConcept, ← List.zipIdx_map_fst 0 r.all, List.filter_map]
  rfl

/-- What is left out of the parts is empty. -/
theorem flatMap_partsOf (r : Registry) (cs : List Concept) :
    (r.partsOf cs).flatMap (·.2) = cs.flatMap r.ofConcept := by
  induction cs with
  | nil => rfl
  | cons c cs ih =>
    by_cases hc : r.ofConcept c = []
    · rw [partsOf_cons_of_nil hc, ih, List.flatMap_cons, hc, List.nil_append]
    · rw [partsOf_cons_of_ne_nil hc, List.flatMap_cons, ih, List.flatMap_cons]

theorem map_partsOf (r : Registry) (cs : List Concept) :
    (r.partsOf cs).map (·.1) = cs.filter fun c => !(r.ofConcept c).isEmpty := by
  unfold partsOf
  rw [List.map_map]
  exact List.map_id' _

theorem isLegend_partsOf (r : Registry) : IsLegend r (r.partsOf Concept.legendOrder) r.shown := by
  constructor
  case order =>
    rw [map_partsOf]
    exact List.filter_sublist
  case concepts =>
    intro c
    rw [map_partsOf, List.mem_filter]
    have hne : (!(r.ofConcept c).isEmpty) = true ↔ ∃ g ∈ r.all, g.concept = c := by
      simp [ofConcept]
    rw [hne]
    exact and_iff_right (Concept.mem_legendOrder c)
  case glyphs =>
    intro part hpart
    obtain ⟨c, _, rfl⟩ := List.mem_map.1 hpart
    rfl
  case shows => rw [map_shown, flatMap_partsOf]
  case perm =>
    exact flatMap_filter_perm Concept.nodup_legendOrder Concept.mem_legendOrder
      (fun x : Glyph × Nat => x.1.concept) r.all.zipIdx
  case sorted =>
    have hplaces : r.all.zipIdx.Pairwise fun a b => a.2 < b.2 := by
      rw [← List.pairwise_map, List.zipIdx_map_snd]
      exact List.pairwise_lt_range'
    exact pairwise_flatMap_filter Concept.pairwise_legendPlace (·.1.concept) hplaces

/-- **The legend loses and repeats nothing.**  It is the title followed by the parts of the concepts
that some glyph denotes, in the order of the legend; and the glyphs of these parts are those of the
registry, each of them once, sorted by the places of their concepts and then by their own. -/
theorem legend_shows (r : Registry) :
    ∃ parts shown, IsLegend r parts shown ∧ r.legend = ofLines (legendLines parts) ∧
      (parts.flatMap (·.2)).Perm r.all := by
  have h := isLegend_partsOf r
  refine ⟨_, _, h, legend_eq r, ?_⟩
  rw [← h.shows]
  conv => rhs; rw [← List.zipIdx_map_fst 0 r.all]
  exact h.perm.map _

-- Concepts without glyphs are left out, and core and extended glyphs of one concept come together.
example : legend {
      core := [⟨"a", "Alpha", "First.", .flow, "a()"⟩, ⟨"b", "Beta", "Second.", .safety, "b()"⟩]
      extended := [⟨"c", "Gamma", "Third.", .flow, "c()"⟩]
      triple := fun _ => ⟨"a", "b", "c"⟩ }
    = "# Glyph Legend\n" ++ "\n## Safety\n\n- `b` **Beta**: Second. Example: `b()`\n"
      ++ "\n## Flow\n\n- `a` **Alpha**: First. Example: `a()`\n"
      ++ "- `c` **Gamma**: Third. Example: `c()`\n" := rfl

end Registry

end CodeIdioms
