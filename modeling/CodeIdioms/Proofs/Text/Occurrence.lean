import CodeIdioms.Proofs.Text.Replacement
import Mathlib.Data.List.Infix

/-! # Texts between occurrences

A text can be cut at a part: the part stands between pieces that do not contain it.  Replacing the
part puts the new text between the same pieces and changes none of them (`exists_cut_replaceFrom`).

In general a text can be cut in several ways, since occurrences of a part can overlap.  If the first
character of a part is nowhere else in it, they cannot (`eq_of_before`), so there is one way to cut
the text (`cut_unique`), and what replacing gives is determined by the pieces (`replaced_iff`). -/

namespace CodeIdioms.Text

/-- Pieces of a text that is cut at a part: joined by the part they are the text, and none of them
contains the part. -/
structure IsCut (part s : String) (pieces : List String) : Prop where
  ne_nil : pieces ≠ []
  joined : part.intercalate pieces = s
  apart : ∀ p ∈ pieces, ¬ Contains p part

/-- The second text is the first one with every occurrence of a part replaced: what it puts between
the pieces is the new text. -/
def Replaced (part new s s' : String) : Prop :=
  ∃ pieces, IsCut part s pieces ∧ s' = new.intercalate pieces

/-! ### Cutting from left to right -/

section
variable {needle : List Char}

/-- Replacing cuts a text at the needle, from left to right, and joins the pieces by the new text. -/
theorem exists_cut_replaceFrom (hneedle : needle ≠ []) (new : List Char) (skip : Nat)
    (cs : List Char) :
    ∃ pieces, pieces ≠ [] ∧ needle.intercalate pieces = cs.drop skip ∧
      (∀ p ∈ pieces, ¬ needle <:+: p) ∧
      replaceFrom needle new skip cs = new.intercalate pieces := by
  fun_induction replaceFrom needle new skip cs with
  | case1 skip =>
    refine ⟨[[]], by simp, by simp, ?_, by simp⟩
    simpa using hneedle
  | case2 skip c cs ih => exact ih
  | case3 c cs hbegins ih =>
    obtain ⟨pieces, hne, hjoin, hapart, hreplace⟩ := ih
    obtain ⟨p, ps, rfl⟩ := List.exists_cons_of_ne_nil hne
    obtain ⟨rest, hrest⟩ := List.isPrefixOf_iff_prefix.1 hbegins
    have hdrop : cs.drop (needle.length - 1) = rest := by
      have hlength : needle.length = needle.length - 1 + 1 := by
        have hpos := List.length_pos_iff.2 hneedle
        omega
      have h : (c :: cs).drop needle.length = rest := by rw [← hrest, List.drop_left]
      rwa [hlength, List.drop_succ_cons] at h
    refine ⟨[] :: p :: ps, by simp, ?_, ?_, ?_⟩
    · rw [List.intercalate_cons_cons, hjoin, hdrop, List.nil_append, hrest, List.drop_zero]
    · rw [List.forall_mem_cons]
      exact ⟨by simpa using hneedle, hapart⟩
    · rw [List.intercalate_cons_cons, hreplace, List.nil_append]
  | case4 c cs hbegins ih =>
    obtain ⟨pieces, hne, hjoin, hapart, hreplace⟩ := ih
    obtain ⟨p, ps, rfl⟩ := List.exists_cons_of_ne_nil hne
    rw [List.forall_mem_cons] at hapart
    obtain ⟨hp, hps⟩ := hapart
    rw [List.drop_zero] at hjoin
    have hcons (sep : List Char) :
        sep.intercalate ((c :: p) :: ps) = c :: sep.intercalate (p :: ps) := by
      cases ps with
      | nil => simp
      | cons q ps => simp [List.intercalate_cons_cons]
    refine ⟨(c :: p) :: ps, by simp, ?_, ?_, ?_⟩
    · rw [hcons, hjoin, List.drop_zero]
    · rw [List.forall_mem_cons]
      refine ⟨?_, hps⟩
      intro hwithin
      obtain hhere | hlater := List.infix_cons_iff.1 hwithin
      · -- a needle here would have been replaced
        have hbegin : c :: p <+: c :: cs := by
          rw [← hjoin]
          cases ps with
          | nil => simp
          | cons q ps => simp [List.intercalate_cons_cons]
        exact hbegins (List.isPrefixOf_iff_prefix.2 (hhere.trans hbegin))
      · exact hp hlater
    · rw [hcons, hreplace]

end

/-! ### One way to cut -/

section
variable {l : Char} {w : List Char}

/-- If a needle begins both a text and what follows a part of it, and the part does not contain the
needle, the part is empty. -/
theorem eq_nil_of_shift (hl : l ∉ w) {t x y : List Char} (ht : ¬ l :: w <:+: t)
    (h : l :: w ++ x = t ++ (l :: w ++ y)) : t = [] := by
  cases t with
  | nil => rfl
  | cons c t =>
    exfalso
    rw [List.cons_append, List.cons_append, List.cons.injEq] at h
    obtain ⟨rfl, htail⟩ := h
    have hshort : ¬ w <+: t := by
      intro hw
      apply ht
      exact (List.cons_prefix_cons.2 ⟨rfl, hw⟩).isInfix
    have htext : t <+: w ++ x := htail ▸ List.prefix_append t _
    obtain hw | hw := List.prefix_or_prefix_of_prefix (List.prefix_append w x) htext
    · exact hshort hw
    · -- what the needle has beyond the part begins with its first character
      obtain ⟨u, rfl⟩ := hw
      rw [List.append_assoc, List.append_cancel_left_eq] at htail
      cases u with
      | nil => exact hshort (by simp)
      | cons d u =>
        obtain ⟨rfl, _⟩ := List.cons.inj htail
        exact hl (by simp)

/-- What stands before the first occurrence of a needle is determined by the text. -/
theorem eq_of_before (hl : l ∉ w) {p q x y : List Char} (hp : ¬ l :: w <:+: p)
    (hq : ¬ l :: w <:+: q) (h : p ++ (l :: w ++ x) = q ++ (l :: w ++ y)) : p = q := by
  obtain ⟨t, rfl, ht⟩ | ⟨t, rfl, ht⟩ := List.append_eq_append_iff.1 h
  · have hnot : ¬ l :: w <:+: t := fun hwithin => hq (hwithin.trans (List.suffix_append p t).isInfix)
    rw [eq_nil_of_shift hl hnot ht, List.append_nil]
  · have hnot : ¬ l :: w <:+: t := fun hwithin => hp (hwithin.trans (List.suffix_append q t).isInfix)
    rw [eq_nil_of_shift hl hnot ht, List.append_nil]

theorem cut_unique (hl : l ∉ w) {ps qs : List (List Char)} (hps : ps ≠ []) (hqs : qs ≠ [])
    (hp : ∀ p ∈ ps, ¬ l :: w <:+: p) (hq : ∀ q ∈ qs, ¬ l :: w <:+: q)
    (h : (l :: w).intercalate ps = (l :: w).intercalate qs) : ps = qs := by
  induction ps generalizing qs with
  | nil => exact absurd rfl hps
  | cons p ps ih =>
    obtain ⟨q, qs, rfl⟩ := List.exists_cons_of_ne_nil hqs
    rw [List.forall_mem_cons] at hp hq
    have hwithin (a b : List Char) : l :: w <:+: a ++ (l :: w ++ b) :=
      ⟨a, b, List.append_assoc ..⟩
    cases ps with
    | nil =>
      cases qs with
      | nil => simpa using h
      | cons q' qs =>
        rw [List.intercalate_singleton, List.intercalate_cons_cons, List.append_assoc] at h
        exact absurd (h ▸ hwithin q _) hp.1
    | cons p' ps =>
      cases qs with
      | nil =>
        rw [List.intercalate_singleton, List.intercalate_cons_cons, List.append_assoc] at h
        exact absurd (h ▸ hwithin p _) hq.1
      | cons q' qs =>
        rw [List.intercalate_cons_cons, List.intercalate_cons_cons, List.append_assoc,
          List.append_assoc] at h
        obtain rfl := eq_of_before hl hp.1 hq.1 h
        rw [List.append_cancel_left_eq, List.append_cancel_left_eq] at h
        rw [ih (by simp) (by simp) hp.2 hq.2 h]

/-- Replacing a part that cannot overlap with itself is the only way to replace it. -/
theorem replaced_iff {part new s s' : String} (hpart : part.toList = l :: w) (hl : l ∉ w) :
    Replaced part new s s' ↔ s' = replace part new s := by
  have hne : part.toList ≠ [] := by simp [hpart]
  obtain ⟨pieces, hpieces, hjoin, hapart, hreplace⟩ :=
    exists_cut_replaceFrom hne new.toList 0 s.toList
  have hcut : replace part new s = new.intercalate (pieces.map String.ofList) := by
    rw [← String.toList_inj, String.toList_intercalate, replace, String.toList_ofList, hreplace]
    simp [Function.comp_def]
  constructor
  · rintro ⟨pieces', hpieces', rfl⟩
    have hsame : pieces'.map String.toList = pieces := by
      rw [hpart] at hjoin hapart
      apply cut_unique hl (by simpa using hpieces'.ne_nil) hpieces
      · intro p hp
        obtain ⟨p', hp', rfl⟩ := List.mem_map.1 hp
        exact hpart ▸ hpieces'.apart p' hp'
      · exact hapart
      · rw [hjoin, ← hpieces'.joined, String.toList_intercalate, hpart, List.drop_zero]
    rw [hcut, ← hsame]
    simp [Function.comp_def]
  · rintro rfl
    refine ⟨pieces.map String.ofList, ⟨by simpa using hpieces, ?_, ?_⟩, hcut⟩
    · rw [← String.toList_inj, String.toList_intercalate, List.map_map]
      simpa [Function.comp_def] using hjoin
    · intro p hp
      obtain ⟨p', hp', rfl⟩ := List.mem_map.1 hp
      unfold Contains
      rw [String.toList_ofList]
      exact hapart p' hp'

end

end CodeIdioms.Text
