import CodeIdioms.Rule.Program
import CodeIdioms.Text.Cut

/-! # Searching a text for a rule

A search explores the pairs of an instruction and a position depth first, trying the preferred
branch of every split before the other, so the first acceptance it meets is the match that
ordered choice prefers.  A pair that has been visited leads nowhere new: whatever start it was
reached from, exploring it again would fail again.  One set of visited pairs therefore serves all
start positions, and a search costs at most one visit for each pair. -/

namespace CodeIdioms.Rule

open CodeIdioms.Text

/-- Visited pairs: for every position, a bit set of instructions. -/
structure Seen where
  rows : Array Nat
deriving Repr

namespace Seen

/-- Nothing visited, at the positions `0` to `n`. -/
def none (n : Nat) : Seen := ⟨Array.replicate (n + 1) 0⟩

/-- Whether the pair of an instruction and a position has been visited. -/
def contains (s : Seen) (pc i : Nat) : Bool := (s.rows[i]?.getD 0).testBit pc

/-- Marks a pair as visited. -/
def insert (s : Seen) (pc i : Nat) : Seen := ⟨s.rows.modify i (· ||| 1 <<< pc)⟩

end Seen

/-- A pair of an instruction and a position still to be explored. -/
abbrev Job := Nat × Nat

namespace Program

variable (p : Program) (text : Array Char)

/-- The character before a position. -/
def before (i : Nat) : Option Char := if i = 0 then none else text[i - 1]?

/-- The pairs that one step leads to, in order of preference. -/
def successors (pc i : Nat) : List Job :=
  match p.instrs[pc]? with
  | some (.chars s next) =>
    match text[i]? with
    | some c => if s.hasChar c then [(next, i + 1)] else []
    | none => []
  | some (.look l next) => if l.holds (before text i) text[i]? then [(next, i)] else []
  | some (.jump next) => [(next, i)]
  | some (.split first second) => [(first, i), (second, i)]
  | some .accept => []
  | none => []

/-- Explores jobs depth first up to the first acceptance; gives its position and the pairs visited
on the way. -/
def explore : Nat → List Job → Seen → Option Nat × Seen
  | 0, _, seen => (none, seen)
  | _ + 1, [], seen => (none, seen)
  | fuel + 1, (pc, i) :: jobs, seen =>
    if seen.contains pc i then explore fuel jobs seen
    else if p.instrs[pc]? = some .accept then (some i, seen)
    else explore fuel (p.successors text pc i ++ jobs) (seen.insert pc i)

/-- Enough rounds to explore everything: each visits a new pair or drops a job, and a visit adds
at most two jobs. -/
def rounds : Nat := 3 * p.instrs.size * (text.size + 1) + 2

/-- Tries `n` start positions from `start` on, and gives the first match as a pair of positions. -/
def findFrom : Nat → Nat → Seen → Option (Nat × Nat)
  | 0, _, _ => none
  | n + 1, start, seen =>
    match p.explore text (p.rounds text) [(0, start)] seen with
    | (some stop, _) => some (start, stop)
    | (none, seen) => findFrom n (start + 1) seen

/-- The leftmost match in a text, as a pair of character positions. -/
def findAt : Option (Nat × Nat) :=
  p.findFrom text (text.size + 1) 0 (Seen.none text.size)

end Program

/-- The number of bytes of a list of characters. -/
def utf8Length (cs : List Char) : Nat := cs.foldl (fun n c => n + c.utf8Size) 0

/-- The leftmost match of a program in a text, as a pair of byte offsets. -/
def Program.find (p : Program) (source : String) : Option (Nat × Nat) :=
  let cs := source.toList
  (p.findAt cs.toArray).map fun (start, stop) =>
    let first := utf8Length (cs.take start)
    (first, first + utf8Length ((cs.drop start).take (stop - start)))

theorem utf8Length_eq (cs : List Char) : utf8Length cs = (String.ofList cs).utf8ByteSize := by
  have h (n : Nat) : cs.foldl (fun n c => n + c.utf8Size) n
      = n + (String.ofList cs).utf8ByteSize := by
    induction cs generalizing n with
    | nil => rfl
    | cons c cs ih =>
      rw [List.foldl_cons, ih, utf8ByteSize_ofList_cons, Nat.add_assoc]
  rw [utf8Length, h, Nat.zero_add]

/-- A match begins and ends between characters. -/
theorem Program.isRange_find {p : Program} {source : String} {first last : Nat}
    (h : p.find source = some (first, last)) : IsRange source first last := by
  obtain ⟨⟨start, stop⟩, _, hr⟩ := Option.map_eq_some_iff.1 h
  obtain ⟨rfl, rfl⟩ := Prod.mk.inj hr
  let cs := source.toList
  have hs : String.ofList (cs.take start) ++ String.ofList ((cs.drop start).take (stop - start))
      ++ String.ofList ((cs.drop start).drop (stop - start)) = source := by
    rw [← String.toList_inj]
    simp only [String.toList_append, String.toList_ofList, List.append_assoc,
      List.take_append_drop, cs]
  have ha := isRange_append (String.ofList (cs.take start))
    (String.ofList ((cs.drop start).take (stop - start)))
    (String.ofList ((cs.drop start).drop (stop - start)))
  rw [hs, String.utf8ByteSize_append] at ha
  rw [utf8Length_eq, utf8Length_eq]
  exact ha

end CodeIdioms.Rule
