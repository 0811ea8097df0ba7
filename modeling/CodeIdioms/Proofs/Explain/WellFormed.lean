import CodeIdioms.Proofs.Explain.Drawing
import CodeIdioms.Proofs.Explain.Expansion
import CodeIdioms.Proofs.Explain.Fallback
import CodeIdioms.Proofs.Explain.Loading

/-! # Narratives without blanks

A narrative is well formed if none of its sections is blank (`isWellFormed_iff`).  The sections of
one that is drawn from a bundle are sentences of the bundle, so what every sentence of a bundle is,
the drawn sections are, if no pool lacks sentences (`Offers`, `IsDrawn.of_offers`); and the section
that points to an example is never blank.  Filling in a target language goes through all bundles of
a store (`resolve_withTarget`).  It makes no sentence blank, and none mentions the placeholder that
has braces for at most one, unless the language does (`IsTemplate`, `isFilledIn_replace`). -/

namespace CodeIdioms

/-! ### Texts that are not blank -/

theorem Text.isBlankText_append (s t : String) :
    Text.isBlankText (s ++ t) = (Text.isBlankText s && Text.isBlankText t) := by
  unfold Text.isBlankText
  rw [String.toList_append, List.all_append]

theorem Text.isBlankText_ofList_cons {c : Char} {cs : List Char} (h : Text.isBlank c = false) :
    Text.isBlankText (String.ofList (c :: cs)) = false := by
  unfold Text.isBlankText
  rw [String.toList_ofList, List.all_cons, h, Bool.false_and]

theorem Section.mem_all (part : Section) : part ∈ Section.all := by
  cases part <;> decide

theorem Narrative.isWellFormed_iff {n : Narrative} :
    n.isWellFormed = true ↔ ∀ part, Text.isBlankText (n.text part) = false := by
  unfold isWellFormed sections
  rw [List.all_map, List.all_eq_true]
  simp only [Function.comp_apply, Bool.not_eq_true']
  exact ⟨fun h part => h part part.mem_all, fun h part _ => h part⟩

/-! ### Sentences -/

/-- A sentence into which a target language can be filled: it is not blank, and has braces for at
most one placeholder. -/
structure IsTemplate (sentence : String) : Prop where
  visible : Text.isBlankText sentence = false
  opening : sentence.toList.count '\x7b' ≤ 1
  closing : sentence.toList.count '\x7d' ≤ 1

theorem isTemplate_ofList_cons {c : Char} {cs : List Char} (hc : Text.isBlank c = false)
    (hopening : (c :: cs).count '\x7b' ≤ 1) (hclosing : (c :: cs).count '\x7d' ≤ 1) :
    IsTemplate (String.ofList (c :: cs)) := by
  refine ⟨Text.isBlankText_ofList_cons hc, ?_, ?_⟩ <;> rwa [String.toList_ofList]

/-- A sentence into which a target language has been filled: it is not blank, and mentions the
placeholder only where the language does. -/
structure IsFilledIn (target sentence : String) : Prop where
  visible : Text.isBlankText sentence = false
  honest : Text.Contains sentence placeholder → Text.Contains target placeholder

theorem isFilledIn_replace {target sentence : String} (ht : Text.isBlankText target = false)
    (h : IsTemplate sentence) : IsFilledIn target (Text.replace placeholder target sentence) where
  visible := Text.isBlankText_replace ht h.visible
  honest hmentions := by
    have hplaceholder : placeholder.toList = '\x7b' :: ("target".toList ++ ['\x7d']) := by decide
    exact Text.contains_of_contains_replace hplaceholder h.opening h.closing hmentions

/-! ### Bundles -/

namespace Bundle

/-- Every pool that is drawn from has sentences, and all of them are of a kind. -/
def Offers (b : Bundle) (P : String → Prop) : Prop :=
  ∀ part ∈ Section.drawn, b.pool part ≠ [] ∧ ∀ sentence ∈ b.pool part, P sentence

theorem offers_withTarget {b : Bundle} {P Q : String → Prop} {t : String} (h : b.Offers P)
    (hfill : ∀ sentence, P sentence → Q (Text.replace placeholder t sentence)) :
    (b.withTarget t).Offers Q := by
  intro part hpart
  obtain ⟨hne, hP⟩ := h part hpart
  rw [pool_withTarget]
  refine ⟨fun hnil => hne (List.map_eq_nil_iff.1 hnil), fun sentence hmem => ?_⟩
  obtain ⟨template, htemplate, rfl⟩ := List.mem_map.1 hmem
  exact hfill template (hP template htemplate)

end Bundle

/-! ### Stores -/

/-- The bundle of a category is filled in wherever it comes from. -/
theorem TemplateStore.resolve_withTarget (s : TemplateStore) (t : String) (c : Category) :
    (s.withTarget t).resolve c = (s.resolve c).withTarget t := by
  rw [← answer_category, ← answer_category, answer_withTarget]

/-! ### Explanations -/

namespace Explainer

theorem IsDrawn.of_offers {x : Explainer} {s : Stream} {i : Nat} {b : Bundle} {name : String}
    {n : Narrative} {P : String → Prop} (drawn : x.IsDrawn s i b name n) (h : b.Offers P) :
    ∀ part ∈ Section.drawn, P (n.text part) := by
  intro part hpart
  obtain ⟨hne, hP⟩ := h part hpart
  exact hP _ ((drawn.slots part hpart).mem hne)

theorem isBlankText_pointer (x : Explainer) (name : String) :
    Text.isBlankText (x.pointer name) = false := by
  have hstart : Text.isBlankText "See how the " = false := by decide
  unfold pointer
  simp only [Text.isBlankText_append, hstart, Bool.false_and]

theorem isWellFormed_of_drawn {n : Narrative}
    (h : ∀ part ∈ Section.drawn, Text.isBlankText (n.text part) = false)
    (hpointer : Text.isBlankText n.pointer = false) : n.isWellFormed = true := by
  refine Narrative.isWellFormed_iff.2 fun part => ?_
  cases part with
  | «example» => exact hpointer
  | celebrate | minimize | better | safety => exact h _ (by decide)

/-- A narrative from a bundle of sentences that have been filled in is well formed and mentions the
placeholder only if the language does. -/
theorem isWellFormed_ofBundle {x : Explainer} {b : Bundle} {t : String}
    (h : b.Offers (IsFilledIn t)) (name : String) (s : Stream) (i : Nat) :
    (x.ofBundle b name s i).1.isWellFormed = true ∧
      ∀ part ∈ Section.drawn,
        Text.Contains ((x.ofBundle b name s i).1.text part) placeholder →
          Text.Contains t placeholder := by
  have drawn := x.isDrawn_ofBundle b name s i
  have hfilled := drawn.of_offers h
  refine ⟨isWellFormed_of_drawn (fun part hpart => (hfilled part hpart).visible) ?_,
    fun part hpart => (hfilled part hpart).honest⟩
  rw [drawn.pointer]
  exact x.isBlankText_pointer name

end Explainer

end CodeIdioms
