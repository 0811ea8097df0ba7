import CodeIdioms.Text.Blank
import CodeIdioms.Text.Replace
import Mathlib.Data.List.Infix

/-! # What replacing leaves

Replacing changes nothing in a text that does not contain the needle
(`replace_of_not_contains`).  In other texts it can leave the needle behind, or make it: what stands
before and after a new text is joined with it, and can make up a needle that was not there.  For a
needle `l w r`, where `l` and `r` are its first and its last character, this is impossible if the
new text has neither `l` nor `r` and is no part of `w` (`not_contains_replace`).  For the `l` and
the `r` of such a needle would come from the old text, and a new text between them would be a part
of `w`; so there is none between them, and the old text contained the needle, which would have been
replaced.

Whatever the new text is, a text that has `l` at most once and `r` at most once contains the needle
at most once, and a needle that is there afterwards has both its ends in the one new text
(`contains_of_contains_replace`).  No new text but a blank one makes a text blank
(`isBlankText_replace`). -/

namespace CodeIdioms.Text

/-- A text contains another one as a part. -/
def Contains (s part : String) : Prop := part.toList <:+: s.toList

instance (s part : String) : Decidable (Contains s part) :=
  inferInstanceAs (Decidable (part.toList <:+: s.toList))

variable {needle new : List Char}

/-! ### Texts without the needle -/

theorem replaceFrom_of_absent {cs : List Char} (h : ¬ needle <:+: cs) :
    replaceFrom needle new 0 cs = cs := by
  induction cs with
  | nil => rfl
  | cons c cs ih =>
    rw [List.infix_cons_iff, not_or] at h
    obtain ⟨hhere, hlater⟩ := h
    have hprefix : ¬ needle.isPrefixOf (c :: cs) = true := fun h =>
      hhere (List.isPrefixOf_iff_prefix.1 h)
    rw [replaceFrom, if_neg hprefix, ih hlater]

theorem replace_of_not_contains {part s : String} (h : ¬ Contains s part) (t : String) :
    replace part t s = s := by
  unfold replace
  rw [replaceFrom_of_absent h, String.ofList_toList]

/-! ### Texts that replacing gives -/

/-- What is skipped makes no difference. -/
theorem replaceFrom_skip (skip : Nat) (cs : List Char) :
    replaceFrom needle new skip cs = replaceFrom needle new 0 (cs.drop skip) := by
  induction cs generalizing skip with
  | nil => rw [List.drop_nil]; cases skip <;> rfl
  | cons c cs ih =>
    cases skip with
    | zero => rfl
    | succ skip => rw [replaceFrom, List.drop_succ_cons, ih]

section
variable {l r : Char} {w : List Char}

/-- A needle cannot begin in new text that lacks its first character. -/
theorem infix_of_infix_append (hl : l ∉ new) {cs : List Char} (h : l :: needle <:+: new ++ cs) :
    l :: needle <:+: cs := by
  induction new with
  | nil => exact h
  | cons d new ih =>
    rw [List.mem_cons, not_or] at hl
    obtain ⟨hd, hnew⟩ := hl
    rw [List.cons_append, List.infix_cons_iff] at h
    obtain hhere | hlater := h
    · exact absurd (List.cons_prefix_cons.1 hhere).1 hd
    · exact ih hnew hlater

/-- No end of a needle can begin with the new text: neither can be a beginning of the other. -/
theorem not_prefix_append (hr : r ∉ new) (hw : ¬ new <:+: w) {u : List Char} (hu : u <:+ w)
    (cs : List Char) : ¬ u ++ [r] <+: new ++ cs := by
  intro h
  obtain hshort | hlong := List.prefix_or_prefix_of_prefix h (List.prefix_append new cs)
  · exact hr (hshort.subset (List.mem_append_right u (List.mem_singleton_self r)))
  · obtain rfl | hnew := List.prefix_concat_iff.1 hlong
    · exact hr (List.mem_append_right u (List.mem_singleton_self r))
    · exact hw (hnew.isInfix.trans hu.isInfix)

/-- If the result of replacing begins with the end of a needle, so did the text. -/
theorem prefix_of_prefix_replaceFrom (hr : r ∉ new) (hw : ¬ new <:+: w) {u cs : List Char}
    (hu : u <:+ w) (h : u ++ [r] <+: replaceFrom needle new 0 cs) : u ++ [r] <+: cs := by
  induction cs generalizing u with
  | nil => exact h
  | cons c cs ih =>
    rw [replaceFrom] at h
    by_cases hprefix : needle.isPrefixOf (c :: cs) = true
    · rw [if_pos hprefix] at h
      exact absurd h (not_prefix_append hr hw hu _)
    · rw [if_neg hprefix] at h
      cases u with
      | nil =>
        obtain ⟨rfl, _⟩ := List.cons_prefix_cons.1 h
        exact List.cons_prefix_cons.2 ⟨rfl, List.nil_prefix⟩
      | cons d u =>
        obtain ⟨rfl, hrest⟩ := List.cons_prefix_cons.1 h
        exact List.cons_prefix_cons.2 ⟨rfl, ih ((List.suffix_cons d u).trans hu) hrest⟩

/-- Replacing leaves no needle, if the new text can be no part of one. -/
theorem not_infix_replaceFrom (hl : l ∉ new) (hr : r ∉ new) (hw : ¬ new <:+: w) (skip : Nat)
    (cs : List Char) :
    ¬ l :: (w ++ [r]) <:+: replaceFrom (l :: (w ++ [r])) new skip cs := by
  fun_induction replaceFrom (l :: (w ++ [r])) new skip cs with
  | case1 => exact fun h => List.cons_ne_nil _ _ (List.infix_nil.1 h)
  | case2 skip c cs ih => exact ih
  | case3 c cs hprefix ih => exact fun h => ih (infix_of_infix_append hl h)
  | case4 c cs hprefix ih =>
    intro h
    obtain hhere | hlater := List.infix_cons_iff.1 h
    · obtain ⟨rfl, hrest⟩ := List.cons_prefix_cons.1 hhere
      have hold := prefix_of_prefix_replaceFrom hr hw (List.suffix_refl w) hrest
      exact hprefix (List.isPrefixOf_iff_prefix.2 (List.cons_prefix_cons.2 ⟨rfl, hold⟩))
    · exact ih hlater

theorem not_contains_replace {part t : String} (hpart : part.toList = l :: (w ++ [r]))
    (hl : l ∉ t.toList) (hr : r ∉ t.toList) (hw : ¬ t.toList <:+: w) (s : String) :
    ¬ Contains (replace part t s) part := by
  unfold Contains replace
  rw [String.toList_ofList, hpart]
  exact not_infix_replaceFrom hl hr hw 0 s.toList

/-- A needle cannot end in text that lacks its last character. -/
theorem infix_of_infix_append_of_last {cs : List Char} (hr : r ∉ cs)
    (h : needle ++ [r] <:+: new ++ cs) : needle ++ [r] <:+: new := by
  rw [← List.reverse_infix, List.reverse_append, List.reverse_append, List.reverse_singleton,
    List.singleton_append] at h
  rw [← List.reverse_infix, List.reverse_append, List.reverse_singleton, List.singleton_append]
  exact infix_of_infix_append (fun hmem => hr (List.mem_reverse.1 hmem)) h

theorem not_infix_of_first {cs : List Char} (hl : l ∉ cs) : ¬ l :: needle <:+: cs := fun h =>
  hl (h.subset List.mem_cons_self)

/-- Where a needle can begin once and end once, a needle that replacing leaves is one of the new
text. -/
theorem infix_of_infix_replaceFrom {cs : List Char} (hl : cs.count l ≤ 1) (hr : cs.count r ≤ 1)
    (h : l :: (w ++ [r]) <:+: replaceFrom (l :: (w ++ [r])) new 0 cs) :
    l :: (w ++ [r]) <:+: new := by
  induction cs with
  | nil => exact absurd (List.infix_nil.1 h) (List.cons_ne_nil _ _)
  | cons c cs ih =>
    rw [replaceFrom] at h
    by_cases hprefix : (l :: (w ++ [r])).isPrefixOf (c :: cs) = true
    · -- the only needle of the text is here, so what follows stays
      obtain ⟨after, hcs⟩ := List.isPrefixOf_iff_prefix.1 hprefix
      rw [List.cons_append, List.cons.injEq] at hcs
      obtain ⟨rfl, rfl⟩ := hcs
      have hlafter : l ∉ after := by
        rw [List.count_cons_self, List.count_append] at hl
        exact List.count_eq_zero.1 (by omega)
      have hrafter : r ∉ after := by
        have hlast : 0 < (w ++ [r]).count r :=
          List.count_pos_iff.2 (List.mem_append_right w (List.mem_singleton_self r))
        have htail := List.count_le_count_cons.trans hr
        rw [List.count_append] at htail
        exact List.count_eq_zero.1 (by omega)
      rw [if_pos hprefix, replaceFrom_skip, List.length_cons, Nat.add_sub_cancel,
        List.drop_left, replaceFrom_of_absent (not_infix_of_first hlafter)] at h
      show (l :: w) ++ [r] <:+: new
      exact infix_of_infix_append_of_last hrafter h
    · rw [if_neg hprefix] at h
      obtain hhere | hlater := List.infix_cons_iff.1 h
      · obtain ⟨rfl, hrest⟩ := List.cons_prefix_cons.1 hhere
        rw [List.count_cons_self] at hl
        have hlcs : l ∉ cs := List.count_eq_zero.1 (by omega)
        rw [replaceFrom_of_absent (not_infix_of_first hlcs)] at hrest
        exact absurd (List.isPrefixOf_iff_prefix.2 (List.cons_prefix_cons.2 ⟨rfl, hrest⟩)) hprefix
      · exact ih (List.count_le_count_cons.trans hl) (List.count_le_count_cons.trans hr) hlater

theorem contains_of_contains_replace {part t s : String} (hpart : part.toList = l :: (w ++ [r]))
    (hl : s.toList.count l ≤ 1) (hr : s.toList.count r ≤ 1)
    (h : Contains (replace part t s) part) : Contains t part := by
  unfold Contains replace at h
  unfold Contains
  rw [String.toList_ofList, hpart] at h
  rw [hpart]
  exact infix_of_infix_replaceFrom hl hr h

end

/-! ### Blanks -/

theorem all_drop_of_all_replaceFrom {p : Char → Bool} (hnew : new.all p = false) (skip : Nat)
    (cs : List Char) (h : (replaceFrom needle new skip cs).all p = true) :
    (cs.drop skip).all p = true := by
  fun_induction replaceFrom needle new skip cs with
  | case1 skip => rw [List.drop_nil]; rfl
  | case2 skip c cs ih => exact ih h
  | case3 c cs hprefix ih =>
    rw [List.all_append, hnew] at h
    cases h
  | case4 c cs hprefix ih =>
    rw [List.all_cons, Bool.and_eq_true] at h
    rw [List.drop_zero, List.all_cons, Bool.and_eq_true]
    exact ⟨h.1, ih h.2⟩

/-- A text that is not blank replaces parts of a text that is not blank. -/
theorem isBlankText_replace {part t s : String} (ht : isBlankText t = false)
    (hs : isBlankText s = false) : isBlankText (replace part t s) = false := by
  rw [Bool.eq_false_iff] at hs ⊢
  intro h
  unfold isBlankText replace at h
  rw [String.toList_ofList] at h
  exact hs (all_drop_of_all_replaceFrom ht 0 s.toList h)

end CodeIdioms.Text
