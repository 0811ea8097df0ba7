import Mathlib.Data.Finset.Prod
import Mathlib.Data.Finset.Card
import CodeIdioms.Proofs.Rule.Matching

/-! # What a search finds

The search for a rule marks the pairs that it has visited.  Between its rounds every step from a
marked pair leads to a marked pair or to one that is still to be explored, and no marked pair accepts
(`Program.Explored`).  When nothing is left to be explored, no marked pair leads to acceptance any
more, and a pair that has been marked from one start need not be explored from another.  The rounds
suffice, since each marks a pair or drops a job.  So a search finds a match, of those that begin
leftmost in the text, whenever there is any (`Core.matches_of_findAt`, `Core.findAt_eq_none_iff`). -/

namespace CodeIdioms.Rule

namespace Seen

theorem contains_none (n pc i : Nat) : (none n).contains pc i = false := by
  have hrow : ((Array.replicate (n + 1) 0)[i]?.getD 0 : Nat) = 0 := by
    rw [Array.getElem?_replicate]
    split <;> rfl
  show Nat.testBit ((Array.replicate (n + 1) 0)[i]?.getD 0) pc = false
  rw [hrow, Nat.zero_testBit]

theorem size_insert (s : Seen) (pc i : Nat) : (s.insert pc i).rows.size = s.rows.size :=
  Array.size_modify

/-- Marking a pair marks no other. -/
theorem contains_insert {s : Seen} {pc i : Nat} (h : i < s.rows.size) (pc' i' : Nat) :
    (s.insert pc i).contains pc' i' = true ↔ s.contains pc' i' = true ∨ (pc', i') = (pc, i) := by
  unfold insert contains
  dsimp only
  rw [Array.getElem?_modify]
  by_cases hi : i = i'
  · subst hi
    rw [if_pos rfl, Array.getElem?_eq_getElem h]
    simp [Nat.testBit_or, Nat.one_shiftLeft, Nat.testBit_two_pow, @eq_comm _ pc]
  · rw [if_neg hi]
    simp [Ne.symm hi]

end Seen

namespace Program

variable {p : Program} {text : Array Char}

/-! ### Rounds -/

/-- A pair is marked, or still to be explored. -/
def Met (seen : Seen) (jobs : List Job) (x : Job) : Prop :=
  seen.contains x.1 x.2 = true ∨ x ∈ jobs

/-- A search has got so far: the marked pairs do not accept, and each step from them leads to a pair
that has been met. -/
structure Explored (p : Program) (text : Array Char) (seen : Seen) (jobs : List Job) : Prop where
  rows : seen.rows.size = text.size + 1
  jobs_le : ∀ x ∈ jobs, x.2 ≤ text.size
  closed : ∀ pc i, seen.contains pc i = true → p.instrs[pc]? ≠ some .accept ∧
    ∀ y ∈ p.successors text pc i, Met seen jobs y

/-- Steps stay in the text. -/
theorem snd_le_of_mem_successors {pc i : Nat} {y : Job} (h : y ∈ p.successors text pc i)
    (hi : i ≤ text.size) : y.2 ≤ text.size := by
  unfold successors at h
  split at h
  · split at h
    · next hc =>
      have hlt := (Array.getElem?_eq_some_iff.1 hc).1
      split at h
      · rw [List.mem_singleton.1 h]
        exact hlt
      · cases h
    · cases h
  · split at h
    · rw [List.mem_singleton.1 h]
      exact hi
    · cases h
  · rw [List.mem_singleton.1 h]
    exact hi
  · rcases List.mem_cons.1 h with rfl | h
    · exact hi
    · rw [List.mem_singleton.1 h]
      exact hi
  · cases h
  · cases h

theorem length_successors_le (p : Program) (text : Array Char) (pc i : Nat) :
    (p.successors text pc i).length ≤ 2 := by
  unfold successors
  split
  · split
    · split <;> simp
    · simp
  · split <;> simp
  all_goals simp

theorem successors_eq_nil {pc : Nat} (h : p.instrs.size ≤ pc) (i : Nat) :
    p.successors text pc i = [] := by
  unfold successors
  rw [Array.getElem?_eq_none h]

variable {seen seen' : Seen} {jobs : List Job} {pc i : Nat}

theorem Explored.none (p : Program) (text : Array Char) : p.Explored text (Seen.none text.size) [] where
  rows := Array.size_replicate
  jobs_le := fun _ hx => absurd hx List.not_mem_nil
  closed := fun pc i h => by
    rw [Seen.contains_none] at h
    cases h

/-- A job more to be done. -/
theorem Explored.start (h : p.Explored text seen []) {x : Job} (hx : x.2 ≤ text.size) :
    p.Explored text seen [x] where
  rows := h.rows
  jobs_le := fun y hy => List.mem_singleton.1 hy ▸ hx
  closed := fun pc i hseen => by
    obtain ⟨haccept, hsteps⟩ := h.closed pc i hseen
    exact ⟨haccept, fun y hy => (hsteps y hy).imp_right fun hy => absurd hy List.not_mem_nil⟩

theorem Met.drop {x : Job} (h : Met seen ((pc, i) :: jobs) x) (hseen : seen.contains pc i = true) :
    Met seen jobs x := by
  rcases h with hx | hx
  · exact .inl hx
  · rcases List.mem_cons.1 hx with rfl | hx
    · exact .inl hseen
    · exact .inr hx

theorem Met.visit {x : Job} (h : Met seen ((pc, i) :: jobs) x) (hrow : i < seen.rows.size)
    (steps : List Job) : Met (seen.insert pc i) (steps ++ jobs) x := by
  unfold Met
  rw [Seen.contains_insert hrow]
  rcases h with hx | hx
  · exact .inl (.inl hx)
  · rcases List.mem_cons.1 hx with rfl | hx
    · exact .inl (.inr rfl)
    · exact .inr (List.mem_append_right _ hx)

/-- A job that has been done before is dropped. -/
theorem Explored.drop (h : p.Explored text seen ((pc, i) :: jobs))
    (hseen : seen.contains pc i = true) : p.Explored text seen jobs where
  rows := h.rows
  jobs_le := fun x hx => h.jobs_le x (List.mem_cons_of_mem _ hx)
  closed := fun pc' i' hseen' => by
    obtain ⟨haccept, hsteps⟩ := h.closed pc' i' hseen'
    exact ⟨haccept, fun y hy => (hsteps y hy).drop hseen⟩

/-- The position of a job has its row of marks. -/
theorem Explored.lt_rows (h : p.Explored text seen ((pc, i) :: jobs)) : i < seen.rows.size := by
  rw [h.rows]
  exact Nat.lt_succ_of_le (h.jobs_le (pc, i) List.mem_cons_self)

/-- A job that is done is marked, and its steps become jobs. -/
theorem Explored.visit (h : p.Explored text seen ((pc, i) :: jobs))
    (hpc : p.instrs[pc]? ≠ some .accept) :
    p.Explored text (seen.insert pc i) (p.successors text pc i ++ jobs) := by
  refine ⟨(seen.size_insert pc i).trans h.rows, fun x hx => ?_, fun pc' i' hseen => ?_⟩
  · rcases List.mem_append.1 hx with hx | hx
    · exact snd_le_of_mem_successors hx (h.jobs_le (pc, i) List.mem_cons_self)
    · exact h.jobs_le x (List.mem_cons_of_mem _ hx)
  · rcases (Seen.contains_insert h.lt_rows pc' i').1 hseen with hseen | heq
    · obtain ⟨haccept, hsteps⟩ := h.closed pc' i' hseen
      exact ⟨haccept, fun y hy => (hsteps y hy).visit h.lt_rows _⟩
    · obtain ⟨rfl, rfl⟩ := Prod.mk.inj heq
      exact ⟨hpc, fun y hy => .inr (List.mem_append_left _ hy)⟩

/-- No marked pair leads to acceptance once nothing is left to be explored. -/
theorem Explored.not_accepts {stop n : Nat} (h : p.Explored text seen [])
    (hseen : seen.contains pc i = true) : ¬ p.Accepts text stop n (pc, i) := by
  induction n generalizing pc i with
  | zero =>
    intro ha
    cases ha with
    | accept haccept => exact (h.closed _ _ hseen).1 haccept
  | succ n ih =>
    intro ha
    cases ha with
    | step hy hrest =>
      rcases (h.closed _ _ hseen).2 _ hy with hy | hy
      · exact ih hy hrest
      · cases hy

/-- The number of pairs that are not marked. -/
def unseen (p : Program) (text : Array Char) (seen : Seen) : Nat :=
  ((Finset.range p.instrs.size ×ˢ Finset.range (text.size + 1)).filter
    fun x => ¬ seen.contains x.1 x.2 = true).card

theorem unseen_le (p : Program) (text : Array Char) (seen : Seen) :
    p.unseen text seen ≤ p.instrs.size * (text.size + 1) := by
  refine (Finset.card_filter_le _ _).trans ?_
  rw [Finset.card_product, Finset.card_range, Finset.card_range]

theorem unseen_insert_le (h : i < seen.rows.size) :
    p.unseen text (seen.insert pc i) ≤ p.unseen text seen := by
  refine Finset.card_le_card (Finset.monotone_filter_right _ fun x _ hx hseen => hx ?_)
  exact (Seen.contains_insert h x.1 x.2).2 (.inl hseen)

theorem unseen_insert_lt (h : i < seen.rows.size) (hi : i ≤ text.size)
    (hpc : pc < p.instrs.size) (hseen : ¬ seen.contains pc i = true) :
    p.unseen text (seen.insert pc i) < p.unseen text seen := by
  have hmem : (pc, i) ∈ Finset.range p.instrs.size ×ˢ Finset.range (text.size + 1) :=
    Finset.mem_product.2 ⟨Finset.mem_range.2 hpc, Finset.mem_range.2 (Nat.lt_succ_of_le hi)⟩
  refine Finset.card_lt_card ((Finset.ssubset_iff_of_subset ?_).2 ⟨(pc, i), ?_, ?_⟩)
  · refine Finset.monotone_filter_right _ fun x _ hx hseen => hx ?_
    exact (Seen.contains_insert h x.1 x.2).2 (.inl hseen)
  · exact Finset.mem_filter.2 ⟨hmem, hseen⟩
  · intro hmem
    exact (Finset.mem_filter.1 hmem).2 ((Seen.contains_insert h pc i).2 (.inr rfl))

/-- A round that does a job leaves fewer pairs and jobs: a pair less, or no steps. -/
theorem remaining_lt (h : p.Explored text seen ((pc, i) :: jobs))
    (hseen : ¬ seen.contains pc i = true) :
    3 * p.unseen text (seen.insert pc i) + (p.successors text pc i ++ jobs).length
      < 3 * p.unseen text seen + ((pc, i) :: jobs).length := by
  have hi : i ≤ text.size := h.jobs_le (pc, i) List.mem_cons_self
  rw [List.length_append, List.length_cons]
  by_cases hpc : pc < p.instrs.size
  · have hless := unseen_insert_lt h.lt_rows hi hpc hseen
    have hsteps := p.length_successors_le text pc i
    omega
  · have hle : p.unseen text (seen.insert pc i) ≤ p.unseen text seen := unseen_insert_le h.lt_rows
    rw [successors_eq_nil (Nat.le_of_not_lt hpc), List.length_nil]
    omega

/-! ### Searches -/

/-- An acceptance that is found is one that a job leads to. -/
theorem exists_accepts_of_explore {fuel stop : Nat}
    (h : p.explore text fuel jobs seen = (some stop, seen')) :
    ∃ x ∈ jobs, ∃ n, p.Accepts text stop n x := by
  induction fuel generalizing jobs seen with
  | zero => cases h
  | succ fuel ih =>
    cases jobs with
    | nil => cases h
    | cons x jobs =>
      obtain ⟨pc, i⟩ := x
      unfold explore at h
      split at h
      · obtain ⟨x, hx, ha⟩ := ih h
        exact ⟨x, List.mem_cons_of_mem _ hx, ha⟩
      · split at h
        · next haccept =>
          obtain rfl := Option.some.inj (congrArg Prod.fst h)
          exact ⟨(pc, i), List.mem_cons_self, 0, .accept haccept⟩
        · obtain ⟨x, hx, n, ha⟩ := ih h
          rcases List.mem_append.1 hx with hx | hx
          · exact ⟨(pc, i), List.mem_cons_self, n + 1, .step hx ha⟩
          · exact ⟨x, List.mem_cons_of_mem _ hx, n, ha⟩

/-- A search that has enough rounds and finds nothing marks all pairs that it has met. -/
theorem explored_of_explore {fuel : Nat} (h : p.Explored text seen jobs)
    (hfuel : 3 * p.unseen text seen + jobs.length < fuel)
    (hnone : p.explore text fuel jobs seen = (none, seen')) :
    p.Explored text seen' [] ∧ ∀ x, Met seen jobs x → seen'.contains x.1 x.2 = true := by
  induction fuel generalizing jobs seen with
  | zero => omega
  | succ fuel ih =>
    cases jobs with
    | nil =>
      obtain rfl := congrArg Prod.snd hnone
      exact ⟨h, fun x hx => hx.resolve_right List.not_mem_nil⟩
    | cons x jobs =>
      obtain ⟨pc, i⟩ := x
      unfold explore at hnone
      split at hnone
      · next hseen =>
        rw [List.length_cons] at hfuel
        obtain ⟨hexplored, hmarked⟩ := ih (h.drop hseen) (by omega) hnone
        exact ⟨hexplored, fun x hx => hmarked x (hx.drop hseen)⟩
      · next hseen =>
        split at hnone
        · cases hnone
        · next haccept =>
          have hless := remaining_lt h hseen
          obtain ⟨hexplored, hmarked⟩ := ih (h.visit haccept) (by omega) hnone
          exact ⟨hexplored, fun x hx => hmarked x (hx.visit h.lt_rows _)⟩

/-- No start position among some leads to acceptance. -/
def Fails (p : Program) (text : Array Char) (start stop : Nat) : Prop :=
  ∀ i, start ≤ i → i < stop → ∀ j n, ¬ p.Accepts text j n (0, i)

theorem Fails.cons {start stop : Nat} (h : p.Fails text (start + 1) stop)
    (hstart : ∀ j n, ¬ p.Accepts text j n (0, start)) : p.Fails text start stop := by
  intro i hle hlt
  rcases Nat.eq_or_lt_of_le hle with rfl | hle
  · exact hstart
  · exact h i hle hlt

theorem fails_of_explore {start : Nat} (h : p.Explored text seen []) (hstart : start ≤ text.size)
    (hnone : p.explore text (p.rounds text) [(0, start)] seen = (none, seen')) :
    p.Explored text seen' [] ∧ ∀ j n, ¬ p.Accepts text j n (0, start) := by
  have hrounds : 3 * p.unseen text seen + [((0, start) : Job)].length < p.rounds text := by
    have hle := Nat.mul_le_mul_left 3 (p.unseen_le text seen)
    unfold rounds
    rw [List.length_singleton, Nat.mul_assoc]
    omega
  obtain ⟨hexplored, hmarked⟩ := explored_of_explore (h.start (x := (0, start)) hstart) hrounds hnone
  exact ⟨hexplored, fun j n => hexplored.not_accepts (hmarked (0, start) (.inr List.mem_cons_self))⟩

/-- Of the start positions that are tried, those before the first that leads to acceptance fail, and
all fail if nothing is found. -/
theorem findFrom_spec {n start : Nat} (h : p.Explored text seen []) (hn : start + n ≤ text.size + 1) :
    (∀ i j, p.findFrom text n start seen = some (i, j) →
      i ≤ text.size ∧ (∃ k, p.Accepts text j k (0, i)) ∧ p.Fails text start i) ∧
    (p.findFrom text n start seen = none → p.Fails text start (start + n)) := by
  induction n generalizing start seen with
  | zero =>
    constructor
    · intro i j hfind
      cases hfind
    · intro _ i hle hlt
      omega
  | succ n ih =>
    unfold findFrom
    cases hresult : p.explore text (p.rounds text) [(0, start)] seen with
    | mk result seen' =>
      cases result with
      | some stop =>
        constructor
        · intro i j hfind
          obtain ⟨rfl, rfl⟩ := Prod.mk.inj (Option.some.inj hfind)
          obtain ⟨x, hx, ha⟩ := exists_accepts_of_explore hresult
          obtain rfl := List.mem_singleton.1 hx
          exact ⟨by omega, ha, fun i hle hlt => by omega⟩
        · intro hfind
          cases hfind
      | none =>
        obtain ⟨hexplored, hfails⟩ := fails_of_explore h (by omega) hresult
        have hmore : start + 1 + n ≤ text.size + 1 := by omega
        obtain ⟨hsome, hnone⟩ := ih hexplored hmore
        refine ⟨fun i j hfind => ?_, fun hfind => ?_⟩
        · obtain ⟨hi, ha, hrest⟩ := hsome i j hfind
          exact ⟨hi, ha, hrest.cons hfails⟩
        · have hrest := (hnone hfind).cons hfails
          rwa [Nat.add_assoc, Nat.add_comm 1] at hrest

end Program

namespace Core

variable {e : Core} {text : Array Char}

theorem findAt_spec (e : Core) (text : Array Char) :
    (∀ i j, e.program.findAt text = some (i, j) →
      i ≤ text.size ∧ (∃ n, e.program.Accepts text j n (0, i)) ∧ e.program.Fails text 0 i) ∧
    (e.program.findAt text = none → e.program.Fails text 0 (text.size + 1)) := by
  have hall : 0 + (text.size + 1) ≤ text.size + 1 := by omega
  have hspec := Program.findFrom_spec (Program.Explored.none e.program text) hall
  rw [Nat.zero_add] at hspec
  exact hspec

theorem not_matches_of_fails {stop i j : Nat} (h : e.program.Fails text 0 stop) (hi : i < stop) :
    ¬ e.Matches text i j := by
  intro hmatch
  obtain ⟨n, ha⟩ := accepts_program_iff.2 hmatch
  exact h i (Nat.zero_le i) hi j n ha

/-- **A search finds a leftmost match.**  What the program of an expression finds is a match of the
expression in the text, and no match begins further left. -/
theorem matches_of_findAt {i j : Nat} (h : e.program.findAt text = some (i, j)) :
    i ≤ text.size ∧ e.Matches text i j ∧ ∀ i' j', e.Matches text i' j' → i ≤ i' := by
  obtain ⟨hi, ha, hfails⟩ := (findAt_spec e text).1 i j h
  refine ⟨hi, accepts_program_iff.1 ha, fun i' j' hmatch => Nat.le_of_not_lt fun hlt => ?_⟩
  exact not_matches_of_fails hfails hlt hmatch

/-- **A search misses no match.**  The program of an expression finds nothing exactly if the
expression matches nowhere in the text. -/
theorem findAt_eq_none_iff :
    e.program.findAt text = none ↔ ∀ i ≤ text.size, ∀ j, ¬ e.Matches text i j := by
  constructor
  · intro h i hi j
    exact not_matches_of_fails ((findAt_spec e text).2 h) (Nat.lt_succ_of_le hi)
  · intro h
    cases hfind : e.program.findAt text with
    | none => rfl
    | some range =>
      obtain ⟨hi, hmatch, -⟩ := matches_of_findAt hfind
      exact absurd hmatch (h range.1 hi range.2)

end Core

end CodeIdioms.Rule
