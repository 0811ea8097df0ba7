import CodeIdioms.CommandLine.Engine
import CodeIdioms.Proofs.Explain.Builtin
import CodeIdioms.Proofs.Result
import CodeIdioms.Proofs.Settings.Validity

/-! # The loaded engine

Loading makes an engine of settings and of what is built in (`load_eq_ok`, `IsLoaded`), and it does
not fail, whatever the settings are (`exists_load`).  With valid settings the target language is not
blank.  So what the engine explains is well formed: a fixed narrative is that of a built-in idiom,
and a drawn one is made of templates with the language filled in (`isWellFormed_explain`). -/

namespace CodeIdioms.CommandLine.Engine

/-- An engine that is made of settings and of what is built in. -/
structure IsLoaded (g : Engine) (s : Settings) : Prop where
  settings_eq : g.settings = s
  glyphs_eq : Builtin.registry = .ok g.glyphs
  catalog_eq : Builtin.catalog g.glyphs = .ok g.catalog
  templates_eq : ∃ t, Builtin.templates = .ok t ∧
    g.templates = t.withTarget s.narrative.targetLanguage

theorem load_eq_ok {s : Settings} {g : Engine} : load s = .ok g ↔ g.IsLoaded s := by
  unfold load
  simp only [Result.bind_eq_ok, Result.mapError_eq_ok]
  constructor
  · rintro ⟨glyphs, hglyphs, catalog, hcatalog, t, htemplates, h⟩
    obtain rfl := Except.ok.inj h
    exact ⟨rfl, hglyphs, hcatalog, t, htemplates, rfl⟩
  · rintro ⟨rfl, hglyphs, hcatalog, t, htemplates, hfilled⟩
    refine ⟨g.glyphs, hglyphs, g.catalog, hcatalog, t, htemplates, ?_⟩
    rw [← hfilled]
    rfl

/-- Loading does not fail. -/
theorem exists_load (s : Settings) : ∃ g, load s = .ok g ∧ g.IsLoaded s := by
  obtain ⟨glyphs, hglyphs⟩ := Builtin.exists_registry
  obtain ⟨catalog, hcatalog⟩ := Builtin.exists_catalog glyphs
  obtain ⟨t, htemplates⟩ := Builtin.exists_templates
  have loaded : IsLoaded ⟨s, glyphs, catalog, t.withTarget s.narrative.targetLanguage⟩ s :=
    ⟨rfl, hglyphs, hcatalog, t, htemplates, rfl⟩
  exact ⟨_, load_eq_ok.2 loaded, loaded⟩

/-! ### Explanations -/

namespace IsLoaded

variable {g : Engine} {s : Settings}

theorem offers_resolve (h : g.IsLoaded s) (c : Category)
    (ht : Text.isBlankText s.narrative.targetLanguage = false) :
    (g.templates.resolve c).Offers (IsFilledIn s.narrative.targetLanguage) := by
  obtain ⟨t, htemplates, hfilled⟩ := h.templates_eq
  rw [hfilled, TemplateStore.resolve_withTarget]
  exact Bundle.offers_withTarget (Builtin.offers_resolve htemplates c) fun sentence template =>
    isFilledIn_replace ht template

end IsLoaded

/-- **Explaining without blanks.**  An engine of valid settings can be loaded, and whatever it
explains, from whatever stream, is well formed; and no drawn section mentions the placeholder,
unless the target language does. -/
theorem isWellFormed_explain {s : Settings} (h : s.invalidOption? = none) :
    ∃ g, load s = .ok g ∧
      ∀ p ∈ g.catalog.idioms, ∀ (mode : Mode) (stream : Stream) (i : Nat),
        let n := (g.explainer.explain p mode stream i).1
        n.isWellFormed = true ∧
          (mode = .variety → ¬ Text.Contains s.narrative.targetLanguage placeholder →
            ∀ part ∈ Section.drawn, ¬ Text.Contains (n.text part) placeholder) := by
  have hvisible := (Settings.invalidOption?_eq_none.1 h).targetLanguage_visible
  obtain ⟨g, hload, loaded⟩ := exists_load s
  refine ⟨g, hload, fun p hp mode stream i => ?_⟩
  cases mode with
  | fixed =>
    exact ⟨Builtin.isWellFormed_of_mem_catalog loaded.catalog_eq hp, nofun⟩
  | variety =>
    have hoffers := loaded.offers_resolve p.category hvisible
    obtain ⟨hwell, hhonest⟩ := g.explainer.isWellFormed_ofBundle hoffers p.name stream i
    exact ⟨hwell, fun _ hclean part hpart hmentions => hclean (hhonest part hpart hmentions)⟩

/-- A target language that could make up a placeholder with what stands around it. -/
def jagged : Settings := { narrative := { targetLanguage := " target\x7d\x7btarget" } }

theorem isWellFormed_explain_jagged :
    jagged.invalidOption? = none ∧
      ∃ g, load jagged = .ok g ∧
        ∃ p ∈ g.catalog.idioms, p.id = "async-await" ∧
          let n := (g.explainer.explain p .variety (fun _ => 0.5) 0).1
          n.isWellFormed = true ∧
            ¬ Text.Contains jagged.narrative.targetLanguage placeholder ∧
            ∀ part ∈ Section.drawn, ¬ Text.Contains (n.text part) placeholder := by
  have hvalid : jagged.invalidOption? = none := rfl
  obtain ⟨g, hload, hexplain⟩ := isWellFormed_explain hvalid
  have hp : Builtin.asyncAwait.withGlyphs g.glyphs ∈ g.catalog.idioms := by
    rw [(Catalog.ofIdioms_eq_ok.1 (load_eq_ok.1 hload).catalog_eq).2]
    refine List.mem_map_of_mem ?_
    simp only [Builtin.idioms, List.mem_cons, true_or, or_true]
  have hclean : ¬ Text.Contains jagged.narrative.targetLanguage placeholder := by decide
  obtain ⟨hwell, hhonest⟩ := hexplain _ hp .variety (fun _ => 0.5) 0
  exact ⟨hvalid, g, hload, _, hp, rfl, hwell, hclean, hhonest rfl hclean⟩

end CodeIdioms.CommandLine.Engine
