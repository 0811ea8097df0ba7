import CodeIdioms.Rule.Search

/-! # What rules match

An expression matches the stretch between two positions of a text (`Core.Matches`); the relation
follows the expression and knows nothing of instructions.  A program accepts at a position if some
steps lead there from its entry (`Program.Accepts`).  The two agree for every expression and its
program (`Core.accepts_program_iff`): a block of code lets through exactly what its expression
matches, whatever stands around the block. -/

namespace CodeIdioms.Rule

open CodeIdioms.Text

/-- An expression matches the stretch of a text between two positions. -/
inductive Core.Matches (text : Array Char) : Core → Nat → Nat → Prop
  | empty (i : Nat) : Matches text .empty i i
  | chars {s : Ranges} {i : Nat} {c : Char} :
    text[i]? = some c → s.hasChar c = true → Matches text (.chars s) i (i + 1)
  | look {l : Look} {i : Nat} :
    l.holds (Program.before text i) text[i]? = true → Matches text (.look l) i i
  | seq {a b : Core} {i j k : Nat} :
    Matches text a i j → Matches text b j k → Matches text (.seq a b) i k
  | left {a b : Core} {i j : Nat} : Matches text a i j → Matches text (.alt a b) i j
  | right {a b : Core} {i j : Nat} : Matches text b i j → Matches text (.alt a b) i j
  | skip (e : Core) (greedy : Bool) (i : Nat) : Matches text (.opt e greedy) i i
  | take {e : Core} {greedy : Bool} {i j : Nat} :
    Matches text e i j → Matches text (.opt e greedy) i j
  | once {e : Core} {greedy : Bool} {i j : Nat} :
    Matches text e i j → Matches text (.plus e greedy) i j
  | again {e : Core} {greedy : Bool} {i j k : Nat} :
    Matches text e i j → Matches text (.plus e greedy) j k → Matches text (.plus e greedy) i k

namespace Program

variable {p : Program} {text : Array Char} {pc i : Nat} {y : Job}

/-! ### Steps -/

theorem mem_successors_chars {s : Ranges} {next : Nat} (h : p.instrs[pc]? = some (.chars s next)) :
    y ∈ p.successors text pc i ↔ ∃ c, text[i]? = some c ∧ s.hasChar c = true ∧ y = (next, i + 1) := by
  unfold successors
  rw [h]
  cases text[i]? with
  | none => simp
  | some c => by_cases hc : s.hasChar c = true <;> simp [hc]

theorem mem_successors_look {l : Look} {next : Nat} (h : p.instrs[pc]? = some (.look l next)) :
    y ∈ p.successors text pc i ↔ l.holds (before text i) text[i]? = true ∧ y = (next, i) := by
  unfold successors
  rw [h]
  by_cases hl : l.holds (before text i) text[i]? = true <;> simp [hl]

theorem mem_successors_jump {next : Nat} (h : p.instrs[pc]? = some (.jump next)) :
    y ∈ p.successors text pc i ↔ y = (next, i) := by
  unfold successors
  rw [h]
  exact List.mem_singleton

theorem mem_successors_split {first second : Nat}
    (h : p.instrs[pc]? = some (.split first second)) :
    y ∈ p.successors text pc i ↔ y = (first, i) ∨ y = (second, i) := by
  unfold successors
  rw [h]
  simp

theorem mem_successors_branch {greedy : Bool} {more done : Nat}
    (h : p.instrs[pc]? = some (.branch greedy more done)) :
    y ∈ p.successors text pc i ↔ y = (more, i) ∨ y = (done, i) := by
  cases greedy with
  | true => exact mem_successors_split h
  | false => exact (mem_successors_split h).trans or_comm

theorem successors_accept (h : p.instrs[pc]? = some .accept) : p.successors text pc i = [] := by
  unfold successors
  rw [h]

/-- The number of steps in which a pair leads to acceptance at the position `stop`. -/
inductive Accepts (p : Program) (text : Array Char) (stop : Nat) : Nat → Job → Prop
  | accept {pc : Nat} : p.instrs[pc]? = some .accept → Accepts p text stop 0 (pc, stop)
  | step {n pc i : Nat} {y : Job} :
    y ∈ p.successors text pc i → Accepts p text stop n y → Accepts p text stop (n + 1) (pc, i)

theorem Accepts.eq_stop {stop n : Nat} (h : p.Accepts text stop n (pc, i))
    (hpc : p.instrs[pc]? = some .accept) : i = stop := by
  cases h with
  | accept _ => rfl
  | step hy _ =>
    rw [successors_accept hpc] at hy
    cases hy

theorem Accepts.exists_step {stop n : Nat} (h : p.Accepts text stop n (pc, i))
    (hpc : p.instrs[pc]? ≠ some .accept) :
    ∃ m y, m < n ∧ y ∈ p.successors text pc i ∧ p.Accepts text stop m y := by
  cases h with
  | accept haccept => exact absurd haccept hpc
  | step hy hrest => exact ⟨_, _, Nat.lt_succ_self _, hy, hrest⟩

theorem branch_ne_accept {greedy : Bool} {more done : Nat}
    (h : p.instrs[pc]? = some (.branch greedy more done)) : p.instrs[pc]? ≠ some .accept := by
  rw [h]
  cases greedy <;> simp [Instr.branch]

/-! ### Blocks -/

/-- A program has a block of instructions at an index. -/
def HasBlock (p : Program) (start : Nat) (code : List Instr) : Prop :=
  ∀ k < code.length, p.instrs[start + k]? = code[k]?

variable {start : Nat} {code code' : List Instr} {instr : Instr}

theorem HasBlock.head (h : p.HasBlock start (instr :: code)) : p.instrs[start]? = some instr :=
  h 0 (Nat.succ_pos _)

theorem HasBlock.tail (h : p.HasBlock start (instr :: code)) : p.HasBlock (start + 1) code := by
  intro k hk
  rw [Nat.add_right_comm]
  exact h (k + 1) (Nat.succ_lt_succ hk)

theorem HasBlock.append_left (h : p.HasBlock start (code ++ code')) : p.HasBlock start code := by
  intro k hk
  rw [h k (by rw [List.length_append]; omega), List.getElem?_append_left hk]

theorem HasBlock.append_right (h : p.HasBlock start (code ++ code')) :
    p.HasBlock (start + code.length) code' := by
  intro k hk
  rw [Nat.add_assoc, h _ (by rw [List.length_append]; omega),
    List.getElem?_append_right (Nat.le_add_right ..), Nat.add_sub_cancel_left]

end Program

namespace Core

open Program

variable {p : Program} {text : Array Char} {e : Core} {stop i j : Nat}

/-- Matches do not end before they begin. -/
theorem Matches.le (h : e.Matches text i j) : i ≤ j := by
  induction h with
  | empty => exact Nat.le_refl _
  | chars => exact Nat.le_succ _
  | look => exact Nat.le_refl _
  | seq _ _ iha ihb => exact Nat.le_trans iha ihb
  | left _ ih => exact ih
  | right _ ih => exact ih
  | skip => exact Nat.le_refl _
  | take _ ih => exact ih
  | once _ ih => exact ih
  | again _ _ ih ihmore => exact Nat.le_trans ih ihmore

/-- Matches stay in the text. -/
theorem Matches.le_size (h : e.Matches text i j) (hi : i ≤ text.size) : j ≤ text.size := by
  induction h with
  | empty => exact hi
  | chars hc _ => exact (Array.getElem?_eq_some_iff.1 hc).1
  | look => exact hi
  | seq _ _ iha ihb => exact ihb (iha hi)
  | left _ ih => exact ih hi
  | right _ ih => exact ih hi
  | skip => exact hi
  | take _ ih => exact ih hi
  | once _ ih => exact ih hi
  | again _ _ ih ihmore => exact ihmore (ih hi)

/-! ### Code and matches -/

theorem hasBlock_seq_right {a b : Core} {start next : Nat}
    (h : p.HasBlock start ((seq a b).code start next)) :
    p.HasBlock (start + a.size) (b.code (start + a.size) next) := by
  have hright := HasBlock.append_right h
  rwa [length_code] at hright

theorem hasBlock_alt_right {a b : Core} {start next : Nat}
    (h : p.HasBlock start ((alt a b).code start next)) :
    p.HasBlock (start + 1 + a.size) (b.code (start + 1 + a.size) next) := by
  have hright := HasBlock.append_right (HasBlock.tail h)
  rwa [length_code] at hright

theorem branch_of_hasBlock_plus {greedy : Bool} {start next : Nat}
    (h : p.HasBlock start ((plus e greedy).code start next)) :
    p.instrs[start + e.size]? = some (.branch greedy start next) := by
  have hright := HasBlock.append_right h
  rw [length_code] at hright
  exact hright.head

/-- Whatever leads from a block of an expression to acceptance leads past the block first, over a
stretch that the expression matches. -/
theorem exists_matches_of_accepts (e : Core) {start next i n : Nat}
    (h : p.HasBlock start (e.code start next)) (ha : p.Accepts text stop n (start, i)) :
    ∃ j m, m < n ∧ e.Matches text i j ∧ p.Accepts text stop m (next, j) := by
  induction e generalizing start next i n with
  | empty =>
    obtain ⟨m, y, hm, hy, hrest⟩ := ha.exists_step (by rw [h.head]; simp)
    obtain rfl := (mem_successors_jump h.head).1 hy
    exact ⟨i, m, hm, .empty i, hrest⟩
  | chars s =>
    obtain ⟨m, y, hm, hy, hrest⟩ := ha.exists_step (by rw [h.head]; simp)
    obtain ⟨c, hc, hs, rfl⟩ := (mem_successors_chars h.head).1 hy
    exact ⟨i + 1, m, hm, .chars hc hs, hrest⟩
  | look l =>
    obtain ⟨m, y, hm, hy, hrest⟩ := ha.exists_step (by rw [h.head]; simp)
    obtain ⟨hl, rfl⟩ := (mem_successors_look h.head).1 hy
    exact ⟨i, m, hm, .look hl, hrest⟩
  | seq a b iha ihb =>
    obtain ⟨j, m, hm, hab, hrest⟩ := iha h.append_left ha
    obtain ⟨k, l, hl, hbc, hrest⟩ := ihb (hasBlock_seq_right h) hrest
    exact ⟨k, l, Nat.lt_trans hl hm, .seq hab hbc, hrest⟩
  | alt a b iha ihb =>
    obtain ⟨m, y, hm, hy, hrest⟩ := ha.exists_step (by rw [h.head]; simp)
    rcases (mem_successors_split h.head).1 hy with rfl | rfl
    · obtain ⟨j, l, hl, hmatch, hrest⟩ := iha h.tail.append_left hrest
      exact ⟨j, l, Nat.lt_trans hl hm, .left hmatch, hrest⟩
    · obtain ⟨j, l, hl, hmatch, hrest⟩ := ihb (hasBlock_alt_right h) hrest
      exact ⟨j, l, Nat.lt_trans hl hm, .right hmatch, hrest⟩
  | opt e greedy ih =>
    obtain ⟨m, y, hm, hy, hrest⟩ := ha.exists_step (branch_ne_accept h.head)
    rcases (mem_successors_branch h.head).1 hy with rfl | rfl
    · obtain ⟨j, l, hl, hmatch, hrest⟩ := ih h.tail hrest
      exact ⟨j, l, Nat.lt_trans hl hm, .take hmatch, hrest⟩
    · exact ⟨i, m, hm, .skip e greedy i, hrest⟩
  | plus e greedy ih =>
    have hbranch := branch_of_hasBlock_plus h
    -- Every round takes a step at least, so the rounds are counted down by the steps that are left.
    induction n using Nat.strongRecOn generalizing i with
    | ind n ihn =>
      obtain ⟨j, m, hm, hmatch, hrest⟩ := ih h.append_left ha
      obtain ⟨l, y, hl, hy, hrest⟩ := hrest.exists_step (branch_ne_accept hbranch)
      rcases (mem_successors_branch hbranch).1 hy with rfl | rfl
      · obtain ⟨k, r, hr, hmore, hrest⟩ := ihn l (Nat.lt_trans hl hm) hrest
        exact ⟨k, r, Nat.lt_trans hr (Nat.lt_trans hl hm), .again hmatch hmore, hrest⟩
      · exact ⟨j, l, Nat.lt_trans hl hm, .once hmatch, hrest⟩

/-- A block of an expression leads over every stretch that the expression matches. -/
theorem Matches.exists_accepts {start next : Nat} (hmatch : e.Matches text i j)
    (h : p.HasBlock start (e.code start next)) (ha : ∃ n, p.Accepts text stop n (next, j)) :
    ∃ n, p.Accepts text stop n (start, i) := by
  induction hmatch generalizing start next with
  | empty i =>
    obtain ⟨n, ha⟩ := ha
    exact ⟨n + 1, .step ((mem_successors_jump h.head).2 rfl) ha⟩
  | chars hc hs =>
    obtain ⟨n, ha⟩ := ha
    exact ⟨n + 1, .step ((mem_successors_chars h.head).2 ⟨_, hc, hs, rfl⟩) ha⟩
  | look hl =>
    obtain ⟨n, ha⟩ := ha
    exact ⟨n + 1, .step ((mem_successors_look h.head).2 ⟨hl, rfl⟩) ha⟩
  | seq _ _ iha ihb => exact iha h.append_left (ihb (hasBlock_seq_right h) ha)
  | left _ ih =>
    obtain ⟨n, ha⟩ := ih h.tail.append_left ha
    exact ⟨n + 1, .step ((mem_successors_split h.head).2 (.inl rfl)) ha⟩
  | right _ ih =>
    obtain ⟨n, ha⟩ := ih (hasBlock_alt_right h) ha
    exact ⟨n + 1, .step ((mem_successors_split h.head).2 (.inr rfl)) ha⟩
  | skip e greedy i =>
    obtain ⟨n, ha⟩ := ha
    exact ⟨n + 1, .step ((mem_successors_branch h.head).2 (.inr rfl)) ha⟩
  | take _ ih =>
    obtain ⟨n, ha⟩ := ih h.tail ha
    exact ⟨n + 1, .step ((mem_successors_branch h.head).2 (.inl rfl)) ha⟩
  | once _ ih =>
    obtain ⟨n, ha⟩ := ha
    have hbranch := branch_of_hasBlock_plus h
    exact ih h.append_left ⟨n + 1, .step ((mem_successors_branch hbranch).2 (.inr rfl)) ha⟩
  | again _ _ ih ihmore =>
    obtain ⟨n, ha⟩ := ihmore h ha
    have hbranch := branch_of_hasBlock_plus h
    exact ih h.append_left ⟨n + 1, .step ((mem_successors_branch hbranch).2 (.inl rfl)) ha⟩

theorem hasBlock_program (e : Core) : e.program.HasBlock 0 (e.code 0 e.size) := by
  have hwhole : e.program.HasBlock 0 (e.code 0 e.size ++ [Instr.accept]) := fun k _ => by
    simp [program]
  exact hwhole.append_left

theorem accept_program (e : Core) : e.program.instrs[e.size]? = some .accept := by
  simp [program, length_code]

/-- A program accepts, from its entry, at the ends of what its expression matches. -/
theorem accepts_program_iff :
    (∃ n, e.program.Accepts text stop n (0, i)) ↔ e.Matches text i stop := by
  constructor
  · rintro ⟨n, ha⟩
    obtain ⟨j, m, -, hmatch, hrest⟩ := e.exists_matches_of_accepts e.hasBlock_program ha
    rwa [hrest.eq_stop e.accept_program] at hmatch
  · intro hmatch
    exact hmatch.exists_accepts e.hasBlock_program ⟨0, .accept e.accept_program⟩

end Core

end CodeIdioms.Rule
