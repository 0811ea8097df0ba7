import CodeIdioms.Proofs.Explain.Expansion
import CodeIdioms.Proofs.Text.Occurrence
import Mathlib.Data.List.Forall2

/-! # Looking up bundles that have been filled in

A store answers every lookup: a category has its own bundle or that of the default lookup, a key has
what the category that it names has, or again that of the default lookup, and the default lookup
gives the default bundle of the store or the empty one (`Finds`, `answer_eq_iff`).

Filling in a target language replaces the placeholder in every sentence of every pool, once
(`IsFilling`).  It leaves every step of a lookup where it was (`finds_withTarget_iff`), so a lookup in
the store that has been filled in gives what the lookup gave before, filled in, from the same place
(`lookups_withTarget`). -/

namespace CodeIdioms

namespace Bundle

/-- The second bundle is the first one with a target language filled in: its pools have the same
numbers of sentences, and every sentence is the one at its place with the placeholder replaced. -/
def IsFilling (t : String) (b b' : Bundle) : Prop :=
  ∀ part, List.Forall₂ (Text.Replaced placeholder t) (b.pool part) (b'.pool part)

theorem replaced_placeholder_iff {t s s' : String} :
    Text.Replaced placeholder t s s' ↔ Text.replace placeholder t s = s' := by
  have hplaceholder : placeholder.toList = '\x7b' :: ("target\x7d".toList) := by decide
  have hbrace : '\x7b' ∉ "target\x7d".toList := by decide
  rw [Text.replaced_iff hplaceholder hbrace, eq_comm]

/-- Filling in gives one bundle. -/
theorem isFilling_iff {t : String} {b b' : Bundle} : b.IsFilling t b' ↔ b.withTarget t = b' := by
  have hpool (part : Section) :
      List.Forall₂ (Text.Replaced placeholder t) (b.pool part) (b'.pool part)
        ↔ (b.withTarget t).pool part = b'.pool part := by
    have hreplaced : Text.Replaced placeholder t = fun s s' => Text.replace placeholder t s = s' := by
      funext s s'
      exact propext replaced_placeholder_iff
    rw [pool_withTarget, hreplaced, ← List.forall₂_map_left_iff (R := Eq), List.forall₂_eq_eq_eq]
  unfold IsFilling
  simp only [hpool]
  constructor
  · intro h
    exact ext_pool h
  · rintro rfl part
    rfl

end Bundle

namespace TemplateStore

/-- What a bundle is asked for by. -/
inductive Query where
  | category (c : Category)
  | key (key : String)
  | default

/-- Where a bundle comes from: it is a category's own one, the default one of the store, or the
empty one of stores that have no default bundle. -/
inductive Origin where
  | own (c : Category)
  | default
  | missing

/-- The bundle that a store gives. -/
def answer (s : TemplateStore) : Query → Bundle
  | .category c => s.resolve c
  | .key key => s.resolveKey key
  | .default => s.defaultBundle

theorem answer_category (s : TemplateStore) (c : Category) :
    s.answer (.category c) = s.resolve c := rfl

theorem answer_key (s : TemplateStore) (key : String) : s.answer (.key key) = s.resolveKey key := rfl

theorem answer_default (s : TemplateStore) : s.answer .default = s.defaultBundle := rfl

/-- What a store finds, and where. -/
inductive Finds (s : TemplateStore) : Query → Origin → Bundle → Prop
  | own {c : Category} {b : Bundle} (own : s.bundles c = some b) : Finds s (.category c) (.own c) b
  | fallback {c : Category} {o : Origin} {b : Bundle} (none : s.bundles c = none)
      (found : Finds s .default o b) : Finds s (.category c) o b
  | named {key : String} {c : Category} {o : Origin} {b : Bundle}
      (named : Category.ofSpelling key = .ok c) (found : Finds s (.category c) o b) :
      Finds s (.key key) o b
  | unnamed {key : String} {o : Origin} {b : Bundle} (unnamed : ∀ c, Category.ofSpelling key ≠ .ok c)
      (found : Finds s .default o b) : Finds s (.key key) o b
  | default {b : Bundle} (given : s.default = some b) : Finds s .default .default b
  | missing (none : s.default = none) :
      Finds s .default .missing { celebrate := [], minimize := [], better := [], safety := [] }

section
variable {s : TemplateStore} {q : Query} {o : Origin} {b : Bundle}

theorem Finds.answer_eq (h : s.Finds q o b) : s.answer q = b := by
  induction h with
  | own own => simp [answer, resolve, own]
  | fallback none _ ih => simpa [answer, resolve, none] using ih
  | named named _ ih => simpa [answer, resolveKey, named] using ih
  | @unnamed key _ _ unnamed _ ih =>
    cases hc : Category.ofSpelling key with
    | ok c => exact absurd hc (unnamed c)
    | error _ => simpa [answer, resolveKey, hc] using ih
  | default given => simp [answer, defaultBundle, given]
  | missing none => simp [answer, defaultBundle, none]

/-- Every lookup finds something. -/
theorem exists_finds (s : TemplateStore) (q : Query) : ∃ o b, s.Finds q o b := by
  have hdefault : ∃ o b, s.Finds .default o b := by
    cases h : s.default with
    | none => exact ⟨_, _, .missing h⟩
    | some b => exact ⟨_, b, .default h⟩
  have hcategory (c : Category) : ∃ o b, s.Finds (.category c) o b := by
    cases h : s.bundles c with
    | some b => exact ⟨_, b, .own h⟩
    | none =>
      obtain ⟨o, b, found⟩ := hdefault
      exact ⟨o, b, .fallback h found⟩
  cases q with
  | category c => exact hcategory c
  | default => exact hdefault
  | key key =>
    cases h : Category.ofSpelling key with
    | ok c =>
      obtain ⟨o, b, found⟩ := hcategory c
      exact ⟨o, b, .named h found⟩
    | error _ =>
      obtain ⟨o, b, found⟩ := hdefault
      refine ⟨o, b, .unnamed ?_ found⟩
      intro c hc
      rw [h] at hc
      cases hc

theorem answer_eq_iff : s.answer q = b ↔ ∃ o, s.Finds q o b := by
  constructor
  · rintro rfl
    obtain ⟨o, b, found⟩ := s.exists_finds q
    exact ⟨o, found.answer_eq ▸ found⟩
  · rintro ⟨o, found⟩
    exact found.answer_eq

/-- A lookup takes the same steps in a store that has been filled in. -/
theorem finds_withTarget_iff {t : String} {b' : Bundle} :
    (s.withTarget t).Finds q o b' ↔ ∃ b, s.Finds q o b ∧ b.IsFilling t b' := by
  simp only [Bundle.isFilling_iff]
  constructor
  · intro h
    induction h with
    | own own =>
      obtain ⟨b, hb, hfilled⟩ := Option.map_eq_some_iff.1 own
      exact ⟨b, .own hb, hfilled⟩
    | fallback none _ ih =>
      obtain ⟨b, found, hfilled⟩ := ih
      exact ⟨b, .fallback (Option.map_eq_none_iff.1 none) found, hfilled⟩
    | named named _ ih =>
      obtain ⟨b, found, hfilled⟩ := ih
      exact ⟨b, .named named found, hfilled⟩
    | unnamed unnamed _ ih =>
      obtain ⟨b, found, hfilled⟩ := ih
      exact ⟨b, .unnamed unnamed found, hfilled⟩
    | default given =>
      obtain ⟨b, hb, hfilled⟩ := Option.map_eq_some_iff.1 given
      exact ⟨b, .default hb, hfilled⟩
    | missing none => exact ⟨_, .missing (Option.map_eq_none_iff.1 none), rfl⟩
  · rintro ⟨b, h, rfl⟩
    induction h with
    | own own => exact .own (Option.map_eq_some_iff.2 ⟨_, own, rfl⟩)
    | fallback none _ ih => exact .fallback (Option.map_eq_none_iff.2 none) ih
    | named named _ ih => exact .named named ih
    | unnamed unnamed _ ih => exact .unnamed unnamed ih
    | default given => exact .default (Option.map_eq_some_iff.2 ⟨_, given, rfl⟩)
    | missing none => exact .missing (Option.map_eq_none_iff.2 none)

theorem answer_withTarget_iff {t : String} {b' : Bundle} :
    (s.withTarget t).answer q = b' ↔ (s.answer q).IsFilling t b' := by
  rw [answer_eq_iff]
  simp only [finds_withTarget_iff]
  constructor
  · rintro ⟨o, b, found, hfilling⟩
    rwa [found.answer_eq]
  · intro hfilling
    obtain ⟨o, b, found⟩ := s.exists_finds q
    rw [found.answer_eq] at hfilling
    exact ⟨o, b, found, hfilling⟩

theorem answer_withTarget {t : String} :
    (s.withTarget t).answer q = (s.answer q).withTarget t := by
  rw [answer_withTarget_iff, Bundle.isFilling_iff]

end

/-- **Filling in commutes with looking up.**  A lookup in a store that has been filled in gives the
one bundle that is what the lookup gives in the store, filled in; the same categories have bundles of
their own; and every lookup finds its bundle in the same place. -/
theorem lookups_withTarget (s : TemplateStore) (t : String) :
    (∀ c b, (s.withTarget t).resolve c = b ↔ (s.resolve c).IsFilling t b) ∧
      (∀ key b, (s.withTarget t).resolveKey key = b ↔ (s.resolveKey key).IsFilling t b) ∧
      (∀ b, (s.withTarget t).defaultBundle = b ↔ s.defaultBundle.IsFilling t b) ∧
      (∀ c, (s.withTarget t).hasBundle c = s.hasBundle c) ∧
      ∀ q o, (∃ b, (s.withTarget t).Finds q o b) ↔ ∃ b, s.Finds q o b := by
  refine ⟨?_, ?_, ?_, ?_, ?_⟩
  · intro c b
    rw [← answer_category, ← answer_category, answer_withTarget_iff]
  · intro key b
    rw [← answer_key, ← answer_key, answer_withTarget_iff]
  · intro b
    rw [← answer_default, ← answer_default, answer_withTarget_iff]
  · intro c
    exact Option.isSome_map
  · intro q o
    simp only [finds_withTarget_iff]
    constructor
    · rintro ⟨_, b, found, _⟩
      exact ⟨b, found⟩
    · rintro ⟨b, found⟩
      exact ⟨b.withTarget t, b, found, Bundle.isFilling_iff.2 rfl⟩

end TemplateStore

end CodeIdioms
