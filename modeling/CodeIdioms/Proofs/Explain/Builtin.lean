import CodeIdioms.Catalog.Builtin
import CodeIdioms.Explain.Builtin
import CodeIdioms.Glyph.Builtin
import CodeIdioms.Proofs.Catalog.Construction
import CodeIdioms.Proofs.Explain.WellFormed
import CodeIdioms.Proofs.Result

/-! # What is built in

The built-in glyphs, idioms and templates can be loaded (`exists_registry`, `exists_catalog`,
`exists_templates`).  The narratives of all built-in idioms are well formed, and so every idiom of
the built-in catalog has one that is (`isWellFormed_of_mem_catalog`).  All built-in sentences are
templates; a category that no bundle is for gets the default bundle, and there is one, so no
category lacks sentences (`offers_resolve`). -/

namespace CodeIdioms.Builtin

/-! ### Loading -/

theorem exists_registry : ∃ r, registry = .ok r := Result.exists_of_isOk (by decide +kernel)

theorem exists_catalog (r : Registry) : ∃ c, catalog r = .ok c := by
  have hnone : firstOffence? [] idioms = none := by decide +kernel
  exact Catalog.exists_ofIdioms_iff.2 hnone

theorem exists_templates : ∃ t, templates = .ok t := Result.exists_of_isOk (by decide +kernel)

/-! ### Narratives -/

set_option maxRecDepth 2000 in
theorem isWellFormed_narrative : ∀ p ∈ idioms, p.narrative.isWellFormed = true := by
  simp only [idioms, List.forall_mem_cons, List.not_mem_nil, false_implies, implies_true, and_true,
    Narrative.isWellFormed_iff]
  and_intros
  all_goals
    intro part
    -- every text begins with a visible character, so none is read to its end
    cases part <;> exact Text.isBlankText_ofList_cons rfl

theorem isWellFormed_of_mem_catalog {r : Registry} {c : Catalog} (h : catalog r = .ok c) {p : Idiom}
    (hp : p ∈ c.idioms) : p.narrative.isWellFormed = true := by
  rw [(Catalog.ofIdioms_eq_ok.1 h).2] at hp
  obtain ⟨q, hq, rfl⟩ := List.mem_map.1 hp
  exact isWellFormed_narrative q hq

/-! ### Templates -/

theorem offers_bundles : ∀ e ∈ bundles.entries, e.2.Offers IsTemplate := by
  refine fun e h => (?_ : ∀ e ∈ _, e.2.Offers IsTemplate) e (SortedMap.mem_of_mem_ofList h)
  simp only [Bundle.Offers, Section.drawn, Bundle.pool, List.forall_mem_cons, List.not_mem_nil,
    false_implies, implies_true, and_true, ne_eq, reduceCtorEq, not_false_eq_true, true_and]
  and_intros
  all_goals exact isTemplate_ofList_cons rfl (by decide +kernel) (by decide +kernel)

theorem exists_default : ∃ e ∈ bundles.entries, e.1 = TemplateStore.defaultKey := by decide +kernel

theorem offers_resolve {t : TemplateStore} (h : templates = .ok t) (c : Category) :
    (t.resolve c).Offers IsTemplate := by
  have hdocument : TemplateStore.ofDocument (1, bundles) = .ok t :=
    (TemplateStore.ofDocument_of_version rfl).trans h
  have hmade := TemplateStore.madeOf_ofDocument hdocument
  have hbundle := (TemplateStore.resolve_iff hmade c _).1 rfl
  generalize t.resolve c = b at hbundle ⊢
  cases hbundle with
  | own hmem _ _ => exact offers_bundles _ hmem
  | default _ hdefault =>
    cases hdefault with
    | given hmem => exact offers_bundles _ hmem
    | missing hnone =>
      obtain ⟨e, hmem, hkey⟩ := exists_default
      exact absurd hkey (hnone e hmem)

end CodeIdioms.Builtin
