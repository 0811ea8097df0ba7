import CodeIdioms.Scan.Analysis
import Mathlib

/-! # Workers that share counters

The files of a scan are analysed by several workers, and an event of a file is counted by up to
three additions, between which other workers add.  A pool of workers makes the additions one at a
time, in any order that keeps the order of each worker (`Pool.Step`).  The value of a counter and
what is still to be added to it have a sum that no step changes (`destined_of_step`), so when all
additions are made, the counters are the totals of the events (`counters_of_done`), whatever the
schedule was: those of the events counted one after the other (`counters_of_perm`).

Among totals there are no more files with findings than findings, but in between there can be: a
worker tells of such a file first and of its findings next. -/

namespace CodeIdioms

/-! ### The value of a counter -/

/-- What an addition adds to a counter. -/
def Addition.on (a : Addition) (k : Counter) : UInt64 := if a.counter = k then a.amount else 0

namespace Counters

theorem ext_get {c c' : Counters} (h : ∀ k, c.get k = c'.get k) : c = c' := by
  obtain ⟨a, b, d, e, f⟩ := c
  obtain ⟨a', b', d', e', f'⟩ := c'
  rw [mk.injEq]
  exact ⟨h .files, h .filesWithFindings, h .findings, h .skipped, h .errors⟩

@[simp]
theorem get_zero (k : Counter) : zero.get k = 0 := by cases k <;> rfl

@[simp]
theorem get_put (c : Counters) (k k' : Counter) (n : UInt64) :
    (c.put k n).get k' = if k = k' then n else c.get k' := by
  cases k <;> cases k' <;> rfl

@[simp]
theorem get_add (c : Counters) (a : Addition) (k : Counter) :
    (c.add a).get k = c.get k + a.on k := by
  obtain ⟨k', n⟩ := a
  cases k' <;> cases k <;> simp [add, get, Addition.on]

theorem get_addAll (c : Counters) (as : List Addition) (k : Counter) :
    (c.addAll as).get k = c.get k + (as.map (·.on k)).sum := by
  induction as generalizing c with
  | nil => simp [addAll]
  | cons a as ih =>
    calc ((c.add a).addAll as).get k
        = c.get k + a.on k + (as.map (·.on k)).sum := by rw [ih, get_add]
      _ = c.get k + ((a :: as).map (·.on k)).sum := by
          rw [List.map_cons, List.sum_cons, add_assoc]

/-- A reset leaves nothing of what was counted before. -/
theorem reset_eq_zero (c : Counters) : c.reset = zero := by
  refine ext_get fun k => ?_
  unfold reset Counter.all
  cases k <;> simp

end Counters

/-! ### Totals of events -/

namespace FileEvent

/-- Whether a file was read. -/
def isRead : FileEvent → Bool
  | read _ => true
  | _ => false

/-- The number of findings in a file. -/
def findings : FileEvent → Nat
  | read n => n
  | _ => 0

end FileEvent

/-- What a counter tells of some events. -/
def Counter.total (es : List FileEvent) : Counter → Nat
  | files => es.countP (·.isRead)
  | filesWithFindings => es.countP fun e => 0 < e.findings
  | findings => (es.map (·.findings)).sum
  | skipped => es.count .skipped
  | errors => es.count .failed

namespace Counter

theorem total_cons (e : FileEvent) (es : List FileEvent) (k : Counter) :
    k.total (e :: es) = k.total [e] + k.total es := by
  cases k <;> simp [total, List.countP_cons, List.count_cons, Nat.add_comm]

theorem total_perm {es es' : List FileEvent} (h : es.Perm es') (k : Counter) :
    k.total es = k.total es' := by
  cases k with
  | files | filesWithFindings => exact h.countP_eq _
  | findings => exact (h.map _).sum_eq
  | skipped | errors => exact h.count_eq _

/-- The additions that count an event add to every counter what it tells of the event. -/
theorem sum_additions (e : FileEvent) (k : Counter) :
    (e.additions.map (·.on k)).sum = (k.total [e]).toUInt64 := by
  cases e with
  | read n =>
    -- a file without findings adds to one counter, any other to three
    by_cases hn : n = 0
    · subst hn
      cases k <;> simp [FileEvent.additions, Addition.on, total, FileEvent.isRead,
        FileEvent.findings]
    · cases k <;> simp [FileEvent.additions, Addition.on, total, FileEvent.isRead,
        FileEvent.findings, hn, Nat.pos_of_ne_zero hn]
  | skipped | failed =>
    cases k <;> simp [FileEvent.additions, Addition.on, total, FileEvent.isRead, FileEvent.findings]

theorem sum_flatMap_additions (es : List FileEvent) (k : Counter) :
    ((es.flatMap FileEvent.additions).map (·.on k)).sum = (k.total es).toUInt64 := by
  induction es with
  | nil => cases k <;> rfl
  | cons e es ih =>
    rw [List.flatMap_cons, List.map_append, List.sum_append, sum_additions, ih, total_cons e es]
    exact (UInt64.ofNat_add _ _).symm

theorem filesWithFindings_le_files (es : List FileEvent) :
    filesWithFindings.total es ≤ files.total es := by
  refine List.countP_mono_left fun e _ he => ?_
  cases e with
  | read n => rfl
  | skipped | failed => simp [FileEvent.findings] at he

theorem filesWithFindings_le_findings (es : List FileEvent) :
    filesWithFindings.total es ≤ findings.total es := by
  induction es with
  | nil => rfl
  | cons e es ih =>
    have he : filesWithFindings.total [e] ≤ findings.total [e] := by
      by_cases h : 0 < e.findings
      · simp only [total, List.countP_singleton, List.map_singleton, List.sum_singleton, h]
        exact h
      · simp [total, h]
    rw [total_cons, total_cons e es findings]
    exact Nat.add_le_add he ih

theorem findings_eq_zero_iff (es : List FileEvent) :
    findings.total es = 0 ↔ filesWithFindings.total es = 0 := by
  constructor
  · intro h
    exact Nat.le_zero.1 (h ▸ filesWithFindings_le_findings es)
  · intro h
    refine List.sum_eq_zero fun n hn => ?_
    obtain ⟨e, he, rfl⟩ := List.mem_map.1 hn
    have := List.countP_eq_zero.1 h e he
    simpa using this

end Counter

namespace Counters

/-- The counters of events that are counted one after the other. -/
theorem get_foldl_record (c : Counters) (es : List FileEvent) (k : Counter) :
    (es.foldl record c).get k = c.get k + (k.total es).toUInt64 := by
  have hall : es.foldl record c = c.addAll (es.flatMap FileEvent.additions) := by
    unfold addAll
    rw [List.foldl_flatMap]
    rfl
  rw [hall, get_addAll, Counter.sum_flatMap_additions]

/-- There are no more files with findings than files or findings, and none only if there are no
findings. -/
structure Coherent (c : Counters) : Prop where
  filesWithFindings_le_files : c.filesWithFindings ≤ c.files
  filesWithFindings_le_findings : c.filesWithFindings ≤ c.findings
  findings_eq_zero_iff : c.findings = 0 ↔ c.filesWithFindings = 0

theorem coherent_of_get {c : Counters} {es : List FileEvent}
    (hget : ∀ k, c.get k = (k.total es).toUInt64)
    (hsmall : ∀ k : Counter, k.total es < UInt64.size) : c.Coherent := by
  have htoNat : ∀ k, (c.get k).toNat = k.total es := by
    intro k
    rw [hget]
    exact UInt64.toNat_ofNat_of_lt' (hsmall k)
  have hfiles : c.files.toNat = Counter.files.total es := htoNat .files
  have hwith : c.filesWithFindings.toNat = Counter.filesWithFindings.total es :=
    htoNat .filesWithFindings
  have hfindings : c.findings.toNat = Counter.findings.total es := htoNat .findings
  constructor
  case filesWithFindings_le_files =>
    rw [UInt64.le_iff_toNat_le, hfiles, hwith]
    exact Counter.filesWithFindings_le_files es
  case filesWithFindings_le_findings =>
    rw [UInt64.le_iff_toNat_le, hfindings, hwith]
    exact Counter.filesWithFindings_le_findings es
  case findings_eq_zero_iff =>
    rw [← UInt64.toNat_inj, ← UInt64.toNat_inj, hfindings, hwith]
    exact Counter.findings_eq_zero_iff es

/-! ### Clearing -/

/-- A call on counters. -/
inductive Call where
  | record (e : FileEvent)
  | reset

/-- The counters after a call. -/
def perform (c : Counters) : Call → Counters
  | .record e => c.record e
  | .reset => c.reset

/-- Counters that have just been made, or reset after any calls. -/
inductive Cleared : Counters → Prop
  | fresh : Cleared zero
  | reset (c : Counters) (calls : List Call) : Cleared ((calls ++ [Call.reset]).foldl perform c)

theorem Cleared.eq_zero {c : Counters} (h : c.Cleared) : c = zero := by
  cases h with
  | fresh => rfl
  | reset c calls =>
    rw [List.foldl_concat]
    exact reset_eq_zero _

end Counters

/-! ### The pool -/

/-- Shared counters, and what every worker has still to add, in its order. -/
structure Pool where
  counters : Counters
  pending : List (List Addition)

namespace Pool

/-- The pool of workers that have events to count, in their order. -/
def start (c : Counters) (work : List (List FileEvent)) : Pool :=
  { counters := c, pending := work.map (·.flatMap FileEvent.additions) }

/-- A worker makes its next addition. -/
inductive Step : Pool → Pool → Prop
  | add (c : Counters) (before : List (List Addition)) (a : Addition) (as : List Addition)
      (after : List (List Addition)) :
      Step ⟨c, before ++ (a :: as) :: after⟩ ⟨c.add a, before ++ as :: after⟩

/-- A pool that is reached by any number of steps. -/
abbrev Run : Pool → Pool → Prop := Relation.ReflTransGen Step

/-- No worker has anything to add. -/
def Done (p : Pool) : Prop := ∀ as ∈ p.pending, as = []

/-- The value that a counter will have when all additions are made. -/
def destined (p : Pool) (k : Counter) : UInt64 :=
  p.counters.get k + (p.pending.flatten.map (·.on k)).sum

theorem destined_start (c : Counters) (work : List (List FileEvent)) (k : Counter) :
    (start c work).destined k = c.get k + (k.total work.flatten).toUInt64 := by
  have hpending : (work.map (·.flatMap FileEvent.additions)).flatten
      = work.flatten.flatMap FileEvent.additions := by
    rw [← List.flatMap_def, ← List.flatMap_id, List.flatMap_assoc]
    rfl
  unfold destined start
  rw [hpending, Counter.sum_flatMap_additions]

theorem destined_of_done {p : Pool} (h : p.Done) (k : Counter) :
    p.destined k = p.counters.get k := by
  unfold destined
  rw [List.flatten_eq_nil_iff.2 h]
  exact add_zero _

theorem destined_of_step {p q : Pool} (h : Step p q) (k : Counter) :
    q.destined k = p.destined k := by
  obtain ⟨c, before, a, as, after⟩ := h
  simp only [destined, Counters.get_add, List.flatten_append, List.flatten_cons, List.map_append,
    List.sum_append, List.map_cons, List.sum_cons, List.cons_append]
  ac_rfl

theorem destined_of_run {p q : Pool} (h : Run p q) (k : Counter) : q.destined k = p.destined k := by
  induction h with
  | refl => rfl
  | tail _ hstep ih => rw [destined_of_step hstep, ih]

/-- When all additions are made, a counter has grown by what it tells of the events. -/
theorem get_of_done {c : Counters} {work : List (List FileEvent)} {p : Pool}
    (hrun : Run (start c work) p) (hdone : p.Done) (k : Counter) :
    p.counters.get k = c.get k + (k.total work.flatten).toUInt64 := by
  rw [← destined_of_done hdone, destined_of_run hrun, destined_start]

theorem exists_step {p : Pool} (h : ¬ p.Done) : ∃ q, Step p q := by
  unfold Done at h
  push Not at h
  obtain ⟨as, hmem, hne⟩ := h
  obtain ⟨c, pending⟩ := p
  obtain ⟨before, after, rfl⟩ := List.append_of_mem hmem
  obtain ⟨a, as, rfl⟩ := List.exists_cons_of_ne_nil hne
  exact ⟨_, .add c before a as after⟩

theorem length_of_step {p q : Pool} (h : Step p q) :
    p.pending.flatten.length = q.pending.flatten.length + 1 := by
  obtain ⟨c, before, a, as, after⟩ := h
  simp only [List.flatten_append, List.flatten_cons, List.length_append, List.length_cons]
  omega

/-- Every run goes on until all additions are made. -/
theorem exists_run_done (p : Pool) : ∃ q, Run p q ∧ q.Done := by
  induction hn : p.pending.flatten.length generalizing p with
  | zero => exact ⟨p, .refl, List.flatten_eq_nil_iff.1 (List.length_eq_zero_iff.1 hn)⟩
  | succ n ih =>
    have hnot : ¬ p.Done := by
      intro hdone
      rw [List.flatten_eq_nil_iff.2 hdone] at hn
      cases hn
    obtain ⟨q, hstep⟩ := exists_step hnot
    have hlength := length_of_step hstep
    obtain ⟨r, hrun, hdone⟩ := ih q (by omega)
    exact ⟨r, .head hstep hrun, hdone⟩

/-- **The counters of a pool do not depend on its schedule.**  When all additions are made, every
counter is the total of what was to be counted, as a word; and they are coherent unless a total
exceeds a word. -/
theorem counters_of_done {c : Counters} {work : List (List FileEvent)} {p : Pool}
    (hc : c.Cleared) (hrun : Run (start c work) p) (hdone : p.Done) :
    (∀ k, p.counters.get k = (k.total work.flatten).toUInt64) ∧
      ((∀ k : Counter, k.total work.flatten < UInt64.size) → p.counters.Coherent) := by
  have hget : ∀ k, p.counters.get k = (k.total work.flatten).toUInt64 := by
    intro k
    rw [get_of_done hrun hdone, hc.eq_zero, Counters.get_zero, zero_add]
  exact ⟨hget, Counters.coherent_of_get hget⟩

/-- Two workers, of which one makes its two additions between the three of the other. -/
theorem counters_of_split :
    let c := [Counters.Call.record .failed, .reset].foldl Counters.perform Counters.zero
    let work : List (List FileEvent) := [[.read 2], [.read 0, .skipped]]
    let p : Pool := ⟨⟨2, 1, 2, 1, 0⟩, [[], []]⟩
    c.Cleared ∧ Run (start c work) p ∧ p.Done ∧
      (∀ k, p.counters.get k = (k.total work.flatten).toUInt64) ∧
      ((∀ k : Counter, k.total work.flatten < UInt64.size) → p.counters.Coherent) := by
  intro c work p
  have hc : c.Cleared := .reset Counters.zero [.record .failed]
  have hrun : Run (start c work) p :=
    .head (.add _ [] ⟨.files, 1⟩ _ _) <|
    .head (.add _ [_] ⟨.files, 1⟩ _ []) <|
    .head (.add _ [] ⟨.filesWithFindings, 1⟩ _ _) <|
    .head (.add _ [_] ⟨.skipped, 1⟩ _ []) <|
    .head (.add _ [] ⟨.findings, 2⟩ _ _) .refl
  have hdone : p.Done := by
    intro as h
    simpa [p] using h
  exact ⟨hc, hrun, hdone, counters_of_done hc hrun hdone⟩

/-- Whatever workers share the outcomes of a scan, and whatever their schedule is, the counters are
those of the outcomes counted one after the other. -/
theorem counters_of_perm {os : List FileOutcome} {work : List (List FileEvent)} {p : Pool}
    (hwork : work.flatten.Perm (os.map FileOutcome.event)) (hrun : Run (start Counters.zero work) p)
    (hdone : p.Done) : p.counters = Counters.ofOutcomes os := by
  refine Counters.ext_get fun k => ?_
  rw [get_of_done hrun hdone, Counter.total_perm hwork]
  exact (Counters.get_foldl_record _ _ k).symm

end Pool

end CodeIdioms
