import CodeIdioms.Proofs.Rule.Beginning
import CodeIdioms.Proofs.Rule.Search

/-! # First matches

What a search finds is told in characters by `Core.matches_of_findAt` and in bytes by `Program.find`.
Here it is told in parts of the text: what is before the match, in it and after it (`Core.IsFirst`).
The match of a visible expression begins with no blank (`Core.IsFirst.exists_visible`); that of an
indented one begins with all blank lines above its word (`Core.IsFirst.exists_indentation`). -/

namespace CodeIdioms

/-- Parts of a text that begin it and have the same number of bytes are the same. -/
theorem Text.eq_of_append_eq {a b a' b' : String} (h : a ++ b = a' ++ b')
    (hsize : a.utf8ByteSize = a'.utf8ByteSize) : a = a' ∧ b = b' := by
  have hcut := cut_append a b
  rw [h, hsize, cut_append] at hcut
  obtain ⟨ha, hb⟩ := Prod.mk.inj (Option.some.inj hcut)
  exact ⟨String.toList_inj.1 ha.symm, String.toList_inj.1 hb.symm⟩

namespace Rule

/-- Of a text in three parts, the middle one is matched by an expression, and no match begins
further left. -/
structure Core.IsFirst (e : Core) (before middle after : String) : Prop where
  matched : e.Matches (before ++ middle ++ after).toList.toArray before.toList.length
    (before ++ middle).toList.length
  leftmost : ∀ i j, e.Matches (before ++ middle ++ after).toList.toArray i j →
    before.toList.length ≤ i

theorem Core.exists_isFirst_of_find {e : Core} {source : String} {first last : Nat}
    (h : e.program.find source = some (first, last)) :
    ∃ before middle after, source = before ++ middle ++ after ∧ before.utf8ByteSize = first ∧
      (before ++ middle).utf8ByteSize = last ∧ e.IsFirst before middle after := by
  obtain ⟨⟨i, j⟩, hfind, hrange⟩ := Option.map_eq_some_iff.1 h
  obtain ⟨rfl, rfl⟩ := Prod.mk.inj hrange
  obtain ⟨hi, hmatch, hleftmost⟩ := Core.matches_of_findAt hfind
  have hij := hmatch.le
  have hj := hmatch.le_size hi
  rw [List.size_toArray] at hi hj
  let before := String.ofList (source.toList.take i)
  let middle := String.ofList ((source.toList.drop i).take (j - i))
  let after := String.ofList ((source.toList.drop i).drop (j - i))
  have hsource : source = before ++ middle ++ after := by
    rw [← String.toList_inj]
    simp only [before, middle, after, String.toList_append, String.toList_ofList,
      List.append_assoc, List.take_append_drop]
  have hbefore : before.toList.length = i := by
    rw [String.toList_ofList, List.length_take, Nat.min_eq_left hi]
  have hmiddle : (before ++ middle).toList.length = j := by
    rw [String.toList_append, List.length_append, hbefore, String.toList_ofList, List.length_take,
      List.length_drop]
    omega
  refine ⟨before, middle, after, hsource, (utf8Length_eq _).symm, ?_, ?_, ?_⟩
  · rw [String.utf8ByteSize_append, utf8Length_eq, utf8Length_eq]
  · rw [← hsource, hbefore, hmiddle]
    exact hmatch
  · rw [← hsource, hbefore]
    exact hleftmost

theorem Core.exists_find_of_matches {e : Core} {source : String} {i j : Nat}
    (h : e.Matches source.toList.toArray i j) (hi : i ≤ source.toList.length) :
    ∃ first last, e.program.find source = some (first, last) := by
  cases hfind : e.program.findAt source.toList.toArray with
  | none => exact absurd h (Core.findAt_eq_none_iff.1 hfind i (by simpa using hi) j)
  | some range =>
    unfold Program.find
    dsimp only
    rw [hfind]
    exact ⟨_, _, rfl⟩

/-! ### Parts of a text -/

/-- What follows a text begins a line. -/
def StartsLine (before : String) : Prop := ∀ c, before.toList.getLast? = some c → c = '\n'

variable {before middle after : String}

theorem getElem?_append_middle {k : Nat} (hk : k < middle.toList.length) :
    (before ++ middle ++ after).toList.toArray[before.toList.length + k]? = middle.toList[k]? := by
  rw [List.getElem?_toArray, String.toList_append, String.toList_append, List.append_assoc,
    List.getElem?_append_right (Nat.le_add_right ..), Nat.add_sub_cancel_left,
    List.getElem?_append_left hk]

theorem length_toList_append (a b : String) :
    (a ++ b).toList.length = a.toList.length + b.toList.length := by
  rw [String.toList_append, List.length_append]

theorem exists_append_of_le {s : String} {n : Nat} (h : n ≤ s.toList.length) :
    ∃ a b : String, s = a ++ b ∧ a.toList.length = n := by
  refine ⟨String.ofList (s.toList.take n), String.ofList (s.toList.drop n), ?_, ?_⟩
  · rw [← String.ofList_append, List.take_append_drop, String.ofList_toList]
  · rw [String.toList_ofList, List.length_take, Nat.min_eq_left h]

theorem before_append (xs ys : List Char) :
    Program.before (xs ++ ys).toArray xs.length = xs.getLast? := by
  unfold Program.before
  rcases List.eq_nil_or_concat xs with rfl | ⟨ws, c, rfl⟩ <;> simp

theorem lineStart_holds_iff {next : Option Char} :
    Look.lineStart.holds (Program.before (before ++ after).toList.toArray before.toList.length) next
      = true ↔ StartsLine before := by
  unfold StartsLine Look.holds
  rw [String.toList_append, before_append]
  cases before.toList.getLast? <;> simp

theorem blankBetween_iff :
    Core.BlankBetween (before ++ middle ++ after).toList.toArray before.toList.length
        (before ++ middle).toList.length ↔ Text.isBlankText middle = true := by
  unfold Core.BlankBetween Text.isBlankText
  rw [length_toList_append, List.all_eq_true]
  constructor
  · intro h c hc
    obtain ⟨n, hn, rfl⟩ := List.mem_iff_getElem.1 hc
    obtain ⟨d, hd, hblank⟩ := h (before.toList.length + n) (Nat.le_add_right ..) (by omega)
    rw [getElem?_append_middle hn, List.getElem?_eq_getElem hn] at hd
    exact Option.some.inj hd ▸ hblank
  · intro h k hle hlt
    obtain ⟨n, rfl⟩ := Nat.exists_eq_add_of_le hle
    have hn : n < middle.toList.length := by omega
    rw [getElem?_append_middle hn, List.getElem?_eq_getElem hn]
    exact ⟨_, rfl, h _ (List.getElem_mem hn)⟩

/-! ### How first matches begin -/

theorem Core.IsFirst.exists_cons {e : Core} (h : e.IsFirst before middle after)
    (hnullable : e.nullable = false) : ∃ c cs, middle.toList = c :: cs := by
  have hlt := h.matched.lt_of_not_nullable hnullable
  rw [length_toList_append] at hlt
  exact List.exists_cons_of_length_pos (Nat.pos_of_lt_add_right hlt)

/-- The first match begins the text if any match does. -/
theorem Core.IsFirst.before_eq_nil {e : Core} {j : Nat} (h : e.IsFirst before middle after)
    (hmatch : e.Matches (before ++ middle ++ after).toList.toArray 0 j) : before.toList = [] :=
  List.length_eq_zero_iff.1 (Nat.le_zero.1 (h.leftmost 0 j hmatch))

/-- The first match of an expression whose matches are not empty and begin with no blank. -/
theorem Core.IsFirst.exists_visible {e : Core} (h : e.IsFirst before middle after)
    (hvisible : e.visible = true) (hnullable : e.nullable = false) :
    ∃ c cs, middle.toList = c :: cs ∧ Text.isBlank c = false := by
  obtain ⟨c, cs, hmiddle⟩ := h.exists_cons hnullable
  obtain ⟨d, hd, hblank⟩ :=
    h.matched.exists_visible hvisible (h.matched.lt_of_not_nullable hnullable)
  have hlong : 0 < middle.toList.length := by
    rw [hmiddle]
    exact Nat.succ_pos _
  have hfirst : (before ++ middle ++ after).toList.toArray[before.toList.length + 0]?
      = middle.toList[0]? := getElem?_append_middle hlong
  rw [Nat.add_zero, hd, hmiddle] at hfirst
  exact ⟨c, cs, hmiddle, Option.some.inj hfirst ▸ hblank⟩

/-- A match of an indented expression extends over blanks before it to the start of a line. -/
theorem Core.matches_indented_of_blank {word : List Char} {e : Core} {x y rest : String} {j : Nat}
    (h : (Core.indented word e).Matches (x ++ y ++ rest).toList.toArray (x ++ y).toList.length j)
    (hx : StartsLine x) (hy : Text.isBlankText y = true) :
    (Core.indented word e).Matches (x ++ y ++ rest).toList.toArray x.toList.length j := by
  obtain ⟨-, k, ⟨hle, hblank⟩, hword⟩ := Core.matches_indented_iff.1 h
  rw [length_toList_append] at hle
  refine Core.matches_indented_iff.2 ⟨?_, k, ⟨by omega, ?_⟩, hword⟩
  · rw [String.append_assoc]
    exact lineStart_holds_iff.2 hx
  · exact (blankBetween_iff.2 hy).trans hblank

/-- The first match of an expression that is indented is divided into the blanks and what begins with
the word.  It begins a line, and the blanks are all that there are above the word. -/
theorem Core.IsFirst.exists_indentation {word : List Char} {e : Core}
    (h : (Core.indented word e).IsFirst before middle after) :
    ∃ indentation construct, middle = indentation ++ construct ∧
      Text.isBlankText indentation = true ∧ word <+: construct.toList ∧ StartsLine before ∧
      ∀ x y, before = x ++ y → StartsLine x → Text.isBlankText y = true → y = "" := by
  obtain ⟨hline, k, ⟨hle, hblank⟩, hword⟩ := Core.matches_indented_iff.1 h.matched
  obtain ⟨n, rfl⟩ := Nat.exists_eq_add_of_le hle
  obtain ⟨hspelled, htail⟩ := Core.matches_spelled_iff.1 hword
  have hend := htail.le
  rw [length_toList_append] at hend
  obtain ⟨indentation, construct, rfl, rfl⟩ := exists_append_of_le (s := middle) (n := n) (by omega)
  rw [← length_toList_append] at hblank hspelled
  rw [length_toList_append] at hend
  refine ⟨indentation, construct, rfl, ?_, ?_, ?_, ?_⟩
  · rw [String.append_assoc, @String.append_assoc indentation, ← String.append_assoc] at hblank
    exact blankBetween_iff.1 hblank
  · refine List.prefix_iff_getElem?.2 fun m hm => ?_
    have hchar := hspelled m hm
    rw [← String.append_assoc, getElem?_append_middle (by omega)] at hchar
    rw [hchar, List.getElem?_eq_getElem hm]
  · rw [String.append_assoc] at hline
    exact lineStart_holds_iff.1 hline
  · -- Otherwise a match would begin at the first of the blanks.
    rintro x y rfl hx hy
    have hmatch := h.matched
    rw [String.append_assoc] at hmatch
    have habove := Core.matches_indented_of_blank hmatch hx hy
    rw [← String.append_assoc] at habove
    have hfirst := h.leftmost _ _ habove
    rw [length_toList_append] at hfirst
    rw [← String.toList_inj, String.toList_empty, ← List.length_eq_zero_iff]
    omega

end Rule

end CodeIdioms
