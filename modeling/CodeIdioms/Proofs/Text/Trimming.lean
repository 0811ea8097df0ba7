import CodeIdioms.Text.Blank
import Mathlib.Data.List.DropRight

/-! # Trimming

Trimming takes the blanks away at both ends of a text and nothing else: what is left has no blank at
either end, and there is only one part of a text with nothing but blanks around it of which that is
true (`trimChars_eq_iff`). -/

namespace CodeIdioms.Text

/-- A text is a part of another one, with blanks around it and none at its own ends. -/
structure Trims (cs core : List Char) : Prop where
  split : ∃ before after, cs = before ++ core ++ after ∧
    (∀ c ∈ before, isBlank c = true) ∧ ∀ c ∈ after, isBlank c = true
  first_visible : ∀ c, core.head? = some c → isBlank c = false
  last_visible : ∀ c, core.getLast? = some c → isBlank c = false

theorem trimChars_eq (cs : List Char) :
    trimChars cs = (cs.dropWhile isBlank).rdropWhile isBlank := rfl

section
variable {α : Type} {p : α → Bool} {l r : List α} {a : α}

theorem dropWhile_append_eq (hl : ∀ a ∈ l, p a = true) (hr : ∀ a, r.head? = some a → p a = false) :
    (l ++ r).dropWhile p = r := by
  rw [List.dropWhile_append_of_pos hl]
  cases r with
  | nil => rfl
  | cons a r => rw [List.dropWhile_cons_of_neg (by simp [hr a rfl])]

theorem rdropWhile_append_eq (hr : ∀ a ∈ r, p a = true)
    (hl : ∀ a, l.getLast? = some a → p a = false) : (l ++ r).rdropWhile p = l := by
  have hdrop : (r.reverse ++ l.reverse).dropWhile p = l.reverse := by
    refine dropWhile_append_eq (fun a ha => hr a (List.mem_reverse.1 ha)) fun a ha => ?_
    rw [List.head?_reverse] at ha
    exact hl a ha
  unfold List.rdropWhile
  rw [List.reverse_append, hdrop, List.reverse_reverse]

/-- What is left after a run has been dropped does not go on with it. -/
theorem not_of_head?_dropWhile (h : (l.dropWhile p).head? = some a) : p a = false := by
  have hnot := List.head?_dropWhile_not p l
  rw [h] at hnot
  simpa using hnot

end

theorem trims_trimChars (cs : List Char) : Trims cs (trimChars cs) := by
  let body := cs.dropWhile isBlank
  have hbody : trimChars cs ++ body.rtakeWhile isBlank = body :=
    List.rdropWhile_append_rtakeWhile ..
  refine ⟨⟨cs.takeWhile isBlank, body.rtakeWhile isBlank, ?_, ?_, ?_⟩, ?_, ?_⟩
  · rw [List.append_assoc, hbody]
    exact List.takeWhile_append_dropWhile.symm
  · exact fun c hc => List.mem_takeWhile_imp hc
  · exact fun c hc => List.mem_rtakeWhile_imp hc
  · intro c hc
    have hfirst : body.head? = some c := by
      rw [← hbody, List.head?_append, hc]
      rfl
    exact not_of_head?_dropWhile hfirst
  · intro c hc
    rw [trimChars_eq, List.rdropWhile, List.getLast?_reverse] at hc
    exact not_of_head?_dropWhile hc

theorem Trims.eq_trimChars {cs core : List Char} (h : Trims cs core) : trimChars cs = core := by
  obtain ⟨⟨before, after, rfl, hbefore, hafter⟩, hfirst, hlast⟩ := h
  rw [trimChars_eq]
  cases core with
  | nil =>
    -- all is blank, so the first run is everything
    have hblank : ∀ c ∈ before ++ [] ++ after, isBlank c = true := by
      intro c hc
      rw [List.append_nil] at hc
      exact (List.mem_append.1 hc).elim (hbefore c) (hafter c)
    rw [List.dropWhile_eq_nil_iff.2 hblank, List.rdropWhile_nil]
  | cons c core =>
    have hdrop : (before ++ (c :: core ++ after)).dropWhile isBlank = c :: core ++ after :=
      dropWhile_append_eq hbefore hfirst
    rw [List.append_assoc, hdrop, rdropWhile_append_eq hafter hlast]

theorem trimChars_eq_iff {cs core : List Char} : trimChars cs = core ↔ Trims cs core := by
  constructor
  · rintro rfl
    exact trims_trimChars cs
  · exact Trims.eq_trimChars

end CodeIdioms.Text
