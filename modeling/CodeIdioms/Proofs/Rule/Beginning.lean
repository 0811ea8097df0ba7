import CodeIdioms.Proofs.Rule.Matching
import CodeIdioms.Proofs.Text.Ranges
import CodeIdioms.Text.Blank

/-! # How matches begin

Two things can be read off an expression about all of its matches: whether any of them is empty
(`Core.nullable`), and whether those that are not begin with a character that is no blank
(`Core.visible`).  Both look only at what stands at the front of the expression.  Where an expression
begins with blanks and a word, a match is divided into the two (`Core.matches_blanks_iff`,
`Core.matches_spelled_iff`). -/

namespace CodeIdioms

namespace Text.Ranges

/-- Whether no code point lies in a range of either list. -/
def avoids (s t : Ranges) : Bool := s.all fun r => t.all fun q => r.2 < q.1 || q.2 < r.1

theorem not_contains_of_avoids {s t : Ranges} {c : Nat} (h : s.avoids t = true)
    (hs : s.contains c = true) : t.contains c = false := by
  obtain ⟨r, hr, hrc⟩ := covers_of_contains hs
  refine Bool.eq_false_iff.2 fun ht => ?_
  obtain ⟨q, hq, hqc⟩ := covers_of_contains ht
  have hapart := List.all_eq_true.1 (List.all_eq_true.1 h r hr) q hq
  simp only [Bool.or_eq_true, decide_eq_true_eq] at hapart
  omega

theorem hasChar_ofChar {c d : Char} : (ofChar c).hasChar d = true ↔ d = c := by
  have hone : (ofChar c).Ascending := List.pairwise_singleton _ _
  unfold hasChar
  rw [contains_iff_covers hone, ← Char.toNat_inj]
  unfold Covers ofChar
  simp only [List.mem_singleton, exists_eq_left]
  omega

end Text.Ranges

namespace Rule.Core

open Text

variable {text : Array Char} {e : Core} {i j : Nat}

/-! ### Empty matches -/

/-- Whether an expression may match an empty stretch. -/
def nullable : Core → Bool
  | empty => true
  | chars _ => false
  | look _ => true
  | seq a b => a.nullable && b.nullable
  | alt a b => a.nullable || b.nullable
  | opt _ _ => true
  | plus e _ => e.nullable

/-- What is not nullable takes a character at least. -/
theorem Matches.lt_of_not_nullable (h : e.Matches text i j) (he : e.nullable = false) : i < j := by
  induction h with
  | empty => cases he
  | chars => exact Nat.lt_succ_self _
  | look => cases he
  | seq ha hb iha ihb =>
    rcases Bool.and_eq_false_iff.1 he with he | he
    · exact Nat.lt_of_lt_of_le (iha he) hb.le
    · exact Nat.lt_of_le_of_lt ha.le (ihb he)
  | left _ ih => exact ih (Bool.or_eq_false_iff.1 he).1
  | right _ ih => exact ih (Bool.or_eq_false_iff.1 he).2
  | skip => cases he
  | take => cases he
  | once _ ih => exact ih he
  | again _ hmore ih _ => exact Nat.lt_of_lt_of_le (ih he) hmore.le

/-! ### First characters -/

/-- Whether every match that is not empty begins with a character that is no blank. -/
def visible : Core → Bool
  | empty => true
  | chars s => s.avoids blankRanges
  | look _ => true
  | seq a b => a.visible && (!a.nullable || b.visible)
  | alt a b => a.visible && b.visible
  | opt e _ => e.visible
  | plus e _ => e.visible

/-- A match of a visible expression that is not empty begins with no blank. -/
theorem Matches.exists_visible (h : e.Matches text i j) (he : e.visible = true) (hlt : i < j) :
    ∃ c, text[i]? = some c ∧ isBlank c = false := by
  induction h with
  | empty => omega
  | chars hc hs => exact ⟨_, hc, Ranges.not_contains_of_avoids he hs⟩
  | look => omega
  | seq ha hb iha ihb =>
    obtain ⟨hea, heb⟩ := Bool.and_eq_true_iff.1 he
    rcases Nat.lt_or_eq_of_le ha.le with hfirst | rfl
    · exact iha hea hfirst
    · -- The first part is empty, so it is nullable and the second part begins the match.
      rcases Bool.or_eq_true_iff.1 heb with hnullable | heb
      · rw [Bool.not_eq_true'] at hnullable
        exact absurd (ha.lt_of_not_nullable hnullable) (Nat.lt_irrefl _)
      · exact ihb heb hlt
  | left _ ih => exact ih (Bool.and_eq_true_iff.1 he).1 hlt
  | right _ ih => exact ih (Bool.and_eq_true_iff.1 he).2 hlt
  | skip => omega
  | take _ ih => exact ih he hlt
  | once _ ih => exact ih he hlt
  | again hfirst _ ih ihmore =>
    rcases Nat.lt_or_eq_of_le hfirst.le with hlt' | rfl
    · exact ih he hlt'
    · exact ihmore he hlt

/-! ### Blanks and words -/

/-- The characters between two positions are blanks. -/
def BlankBetween (text : Array Char) (i j : Nat) : Prop :=
  ∀ k, i ≤ k → k < j → ∃ c, text[k]? = some c ∧ isBlank c = true

theorem BlankBetween.trans {k : Nat} (h : BlankBetween text i j) (h' : BlankBetween text j k) :
    BlankBetween text i k := by
  intro l hle hlt
  by_cases hl : l < j
  · exact h l hle hl
  · exact h' l (Nat.le_of_not_lt hl) hlt

theorem blankBetween_of_matches_chars (h : (chars blankRanges).Matches text i j) :
    BlankBetween text i j := by
  cases h with
  | chars hc hs =>
    intro k hle hlt
    obtain rfl : k = i := by omega
    exact ⟨_, hc, hs⟩

/-- Any number of blanks. -/
def blanks (greedy : Bool) : Core := opt (plus (chars blankRanges) greedy) greedy

theorem matches_plus_blanks_iff {greedy : Bool} :
    (plus (chars blankRanges) greedy).Matches text i j ↔ i < j ∧ BlankBetween text i j := by
  constructor
  · intro h
    refine ⟨h.lt_of_not_nullable rfl, ?_⟩
    generalize he : plus (chars blankRanges) greedy = e at h
    induction h with
    | once hfirst _ =>
      cases he
      exact blankBetween_of_matches_chars hfirst
    | again hfirst _ _ ihmore =>
      cases he
      exact (blankBetween_of_matches_chars hfirst).trans (ihmore rfl)
    | _ => cases he
  · rintro ⟨hlt, hblank⟩
    obtain ⟨n, rfl⟩ := Nat.exists_eq_add_of_lt hlt
    induction n generalizing i with
    | zero =>
      obtain ⟨c, hc, hs⟩ := hblank i (Nat.le_refl i) hlt
      exact .once (.chars hc hs)
    | succ n ih =>
      obtain ⟨c, hc, hs⟩ := hblank i (Nat.le_refl i) hlt
      have hmore := ih (i := i + 1) (by omega) fun k hle hk => hblank k (by omega) (by omega)
      rw [Nat.add_right_comm i 1 n] at hmore
      exact .again (.chars hc hs) hmore

theorem matches_blanks_iff {greedy : Bool} :
    (blanks greedy).Matches text i j ↔ i ≤ j ∧ BlankBetween text i j := by
  constructor
  · intro h
    refine ⟨h.le, ?_⟩
    cases h with
    | skip => exact fun k hle hlt => by omega
    | take h => exact (matches_plus_blanks_iff.1 h).2
  · rintro ⟨hle, hblank⟩
    rcases Nat.lt_or_eq_of_le hle with hlt | rfl
    · exact .take (matches_plus_blanks_iff.2 ⟨hlt, hblank⟩)
    · exact .skip ..

/-- The characters of a word, one after the other, and then an expression. -/
def spelled (word : List Char) (e : Core) : Core :=
  word.foldr (fun c rest => seq (chars (Ranges.ofChar c)) rest) e

theorem matches_spelled_iff {word : List Char} :
    (spelled word e).Matches text i j ↔
      (∀ k < word.length, text[i + k]? = word[k]?) ∧ e.Matches text (i + word.length) j := by
  induction word generalizing i with
  | nil => simp [spelled]
  | cons c word ih =>
    have hfirst : (spelled (c :: word) e).Matches text i j ↔
        text[i]? = some c ∧ (spelled word e).Matches text (i + 1) j := by
      constructor
      · intro h
        cases h with
        | seq h hrest =>
          cases h with
          | chars hd hs => exact ⟨Ranges.hasChar_ofChar.1 hs ▸ hd, hrest⟩
      · rintro ⟨hc, hrest⟩
        exact .seq (.chars hc (Ranges.hasChar_ofChar.2 rfl)) hrest
    rw [hfirst, ih, ← and_assoc, List.length_cons, Nat.add_assoc, Nat.add_comm 1]
    refine and_congr_left fun _ => ⟨fun h => ?_, fun h => ⟨h 0 (Nat.succ_pos _), fun k hk => ?_⟩⟩
    · intro k hk
      cases k with
      | zero => exact h.1
      | succ k =>
        rw [Nat.add_comm k, ← Nat.add_assoc, Nat.add_comm 1]
        exact h.2 k (Nat.lt_of_succ_lt_succ hk)
    · rw [Nat.add_assoc, Nat.add_comm 1]
      exact h (k + 1) (Nat.succ_lt_succ hk)

/-- Blanks from the start of a line on, a word, and then an expression. -/
def indented (word : List Char) (e : Core) : Core :=
  .seq .empty <| .seq (.look .lineStart) <| .seq (blanks true) (spelled word e)

theorem matches_indented_iff {word : List Char} :
    (indented word e).Matches text i j ↔
      Look.lineStart.holds (Program.before text i) text[i]? = true ∧
        ∃ k, (i ≤ k ∧ BlankBetween text i k) ∧ (spelled word e).Matches text k j := by
  constructor
  · intro h
    cases h with
    | seq hempty h =>
      cases hempty
      cases h with
      | seq hlook h =>
        cases hlook with
        | look hline =>
          cases h with
          | @seq _ _ _ k _ hblanks hword => exact ⟨hline, k, matches_blanks_iff.1 hblanks, hword⟩
  · rintro ⟨hline, k, hblank, hword⟩
    exact .seq (.empty i) (.seq (.look hline) (.seq (matches_blanks_iff.2 hblank) hword))

end Rule.Core

end CodeIdioms
