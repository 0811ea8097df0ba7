import CodeIdioms.Explain.Template
import CodeIdioms.Proofs.Text.Replacement

/-! # Filling in the target language

Filling in goes through every pool of every bundle, the default one included (`pool_withTarget`,
`holds_withTarget`), and replaces the placeholder in each sentence.  A target language without
braces that is no part of the word between the braces of the placeholder leaves no placeholder in
any sentence, so that filling in again, whatever the language, changes nothing
(`withTarget_withTarget`).  Without the second condition placeholders can appear: `arg` is a part of
`target`, and put between `\x7bt` and `et\x7d` it makes a new one. -/

namespace CodeIdioms

namespace Bundle

theorem pool_withTarget (b : Bundle) (t : String) (part : Section) :
    (b.withTarget t).pool part = (b.pool part).map (Text.replace placeholder t) := by
  cases part <;> rfl

theorem ext_pool {b b' : Bundle} (h : ∀ part, b.pool part = b'.pool part) : b = b' := by
  cases b
  cases b'
  have hcelebrate := h .celebrate
  have hminimize := h .minimize
  have hbetter := h .better
  have hsafety := h .safety
  simp only [pool] at hcelebrate hminimize hbetter hsafety
  rw [hcelebrate, hminimize, hbetter, hsafety]

/-- No sentence of a bundle mentions the placeholder. -/
def IsFilled (b : Bundle) : Prop :=
  ∀ part, ∀ sentence ∈ b.pool part, ¬ Text.Contains sentence placeholder

theorem withTarget_of_isFilled {b : Bundle} (h : b.IsFilled) (t : String) : b.withTarget t = b := by
  refine ext_pool fun part => ?_
  rw [pool_withTarget]
  conv => rhs; rw [← List.map_id (b.pool part)]
  exact List.map_congr_left fun sentence hmem =>
    Text.replace_of_not_contains (h part sentence hmem) t

end Bundle

/-- A target language that can be filled in for good: it has no brace, and the placeholder does not
have it between its braces. -/
structure IsPlainTarget (t : String) : Prop where
  no_opening : '\x7b' ∉ t.toList
  no_closing : '\x7d' ∉ t.toList
  apart : ¬ Text.Contains "target" t

theorem Bundle.isFilled_withTarget {t : String} (ht : IsPlainTarget t) (b : Bundle) :
    (b.withTarget t).IsFilled := by
  intro part sentence hmem
  rw [pool_withTarget] at hmem
  obtain ⟨template, _, rfl⟩ := List.mem_map.1 hmem
  have hplaceholder : placeholder.toList = '\x7b' :: ("target".toList ++ ['\x7d']) := by decide
  exact Text.not_contains_replace hplaceholder ht.no_opening ht.no_closing ht.apart template

namespace TemplateStore

/-- The bundles of a store: those of categories, and the default one. -/
inductive Holds (s : TemplateStore) (b : Bundle) : Prop
  | ofCategory {c : Category} (own : s.bundles c = some b) : Holds s b
  | default (given : s.default = some b) : Holds s b

theorem holds_withTarget {s : TemplateStore} {t : String} {b : Bundle} :
    (s.withTarget t).Holds b ↔ ∃ b', s.Holds b' ∧ b'.withTarget t = b := by
  constructor
  · rintro (h | h)
    · obtain ⟨b', hb', hb⟩ := Option.map_eq_some_iff.1 h
      exact ⟨b', .ofCategory hb', hb⟩
    · obtain ⟨b', hb', hb⟩ := Option.map_eq_some_iff.1 h
      exact ⟨b', .default hb', hb⟩
  · rintro ⟨b', h | h, hb⟩
    · exact .ofCategory (Option.map_eq_some_iff.2 ⟨b', h, hb⟩)
    · exact .default (Option.map_eq_some_iff.2 ⟨b', h, hb⟩)

theorem withTarget_of_isFilled {s : TemplateStore} (h : ∀ b, s.Holds b → b.IsFilled) (t : String) :
    s.withTarget t = s := by
  have hkeep (o : Option Bundle) (ho : ∀ b, o = some b → s.Holds b) :
      o.map (·.withTarget t) = o := by
    cases o with
    | none => rfl
    | some b => exact congrArg some (Bundle.withTarget_of_isFilled (h b (ho b rfl)) t)
  have hbundles : (s.withTarget t).bundles = s.bundles :=
    funext fun c => hkeep (s.bundles c) fun _ => .ofCategory
  have hdefault : (s.withTarget t).default = s.default := hkeep s.default fun _ => .default
  cases s
  exact congr (congrArg mk hbundles) hdefault

/-- **Filling in is final.**  After a plain target language has been filled in, no sentence of any
bundle mentions the placeholder, and filling in any language again changes nothing. -/
theorem withTarget_withTarget {t : String} (ht : IsPlainTarget t) (s : TemplateStore) :
    (∀ b, (s.withTarget t).Holds b → ∀ part, ∀ sentence ∈ b.pool part,
        ¬ Text.Contains sentence placeholder) ∧
      ∀ t', (s.withTarget t).withTarget t' = s.withTarget t := by
  have hfilled : ∀ b, (s.withTarget t).Holds b → b.IsFilled := by
    intro b hb
    obtain ⟨b', _, rfl⟩ := holds_withTarget.1 hb
    exact b'.isFilled_withTarget ht
  exact ⟨hfilled, withTarget_of_isFilled hfilled⟩

/-- A store whose sentences have placeholders next to and within what could be one. -/
def nested : TemplateStore :=
  { default := some {
      celebrate := ["\x7bt\x7btarget\x7det\x7d", "\x7b\x7btarget\x7d\x7btarget\x7d\x7d"]
      safety := ["\x7btarget\x7bta\x7btarget\x7dt\x7d"] } }

theorem withTarget_withTarget_nested :
    IsPlainTarget "targets" ∧
      (∀ b, (nested.withTarget "targets").Holds b → ∀ part, ∀ sentence ∈ b.pool part,
        ¬ Text.Contains sentence placeholder) ∧
      ∀ t', (nested.withTarget "targets").withTarget t' = nested.withTarget "targets" := by
  have ht : IsPlainTarget "targets" := ⟨by decide, by decide, by decide⟩
  exact ⟨ht, withTarget_withTarget ht nested⟩

/-- A language that is a part of the word between the braces can make new placeholders. -/
example : Text.replace placeholder "arg" "\x7bt\x7btarget\x7det\x7d" = placeholder := by decide

end TemplateStore

end CodeIdioms
