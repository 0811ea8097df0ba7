import CodeIdioms.CommandLine.Session
import Mathlib.Data.List.Induction

/-! # Runs of sessions

A session is run from what has been written before it, and what it has written when it fails stays
written (`run_bind`).  One that takes the values of results before it writes anything, and does
nothing that can fail after that, has written nothing when it fails (`failsSilently_ofExcept_bind`),
and whether it succeeds is told by the results that it takes (`succeeds_ofExcept_bind`).

Notes can fail when others have been written, since standard error may refuse any of them.  Of lines
that are noted in a row, either all are taken, or those before the first that is refused are, and
the session fails with the fault of that (`run_notes`). -/

namespace CodeIdioms.CommandLine

/-- Standard error takes lines that are written to it in a row. -/
def Surroundings.Takes (env : Surroundings) (lines : List String) : Prop :=
  ∀ taken line rest, lines = taken ++ line :: rest → env.takeNote taken line = .ok ()

/-- Of lines that are written to it in a row, standard error takes the first ones and refuses the
line after them. -/
def Surroundings.Refuses (env : Surroundings) (lines taken : List String) (f : FileFault) : Prop :=
  ∃ line rest, lines = taken ++ line :: rest ∧ env.Takes taken ∧ env.takeNote taken line = .error f

section
variable {env : Surroundings} {lines taken : List String} {line : String} {f : FileFault}

theorem takes_nil : env.Takes [] := by
  intro taken line rest h
  exact absurd h (by simp)

theorem takes_concat :
    env.Takes (lines ++ [line]) ↔ env.Takes lines ∧ env.takeNote lines line = .ok () := by
  constructor
  · intro h
    refine ⟨fun taken line' rest hsplit => ?_, h lines line [] rfl⟩
    exact h taken line' (rest ++ [line]) (by rw [hsplit, List.append_assoc, List.cons_append])
  · rintro ⟨htakes, hlast⟩ taken line' rest hsplit
    -- the line is the last one, or one of those before it
    obtain rfl | ⟨rest, last, rfl⟩ := List.eq_nil_or_concat rest
    · obtain ⟨rfl, hline⟩ := List.append_inj' hsplit rfl
      obtain rfl := List.singleton_inj.1 hline
      exact hlast
    · rw [List.concat_eq_append, ← List.cons_append, ← List.append_assoc] at hsplit
      exact htakes taken line' rest (List.append_inj' hsplit rfl).1

theorem Surroundings.Refuses.not_takes (h : env.Refuses lines taken f) : ¬ env.Takes lines := by
  obtain ⟨line, rest, hsplit, -, hrefused⟩ := h
  intro htakes
  rw [htakes taken line rest hsplit] at hrefused
  cases hrefused

theorem Surroundings.Refuses.concat (h : env.Refuses lines taken f) (last : String) :
    env.Refuses (lines ++ [last]) taken f := by
  obtain ⟨line, rest, rfl, htakes, hrefused⟩ := h
  refine ⟨line, rest ++ [last], ?_, htakes, hrefused⟩
  rw [List.append_assoc, List.cons_append]

end

namespace Session

variable {ε α β : Type}

/-- A session that has written nothing if it fails. -/
def FailsSilently (x : Session α) : Prop := ∀ t f, (x.run.run t).1 = .error f → (x.run.run t).2 = t

/-- A session that does not fail, begun with what has been written. -/
def Succeeds (x : Session α) (t : Transcript) : Prop := ∃ a, (x.run.run t).1 = .ok a

/-! ### Parts of a session -/

theorem run_bind (x : Session α) (k : α → Session β) (t : Transcript) : (x >>= k).run.run t =
    match x.run.run t with
    | (.ok a, t') => (k a).run.run t'
    | (.error f, t') => (.error f, t') := by
  show (x >>= k) t = match x t with
    | (.ok a, t') => (k a) t'
    | (.error f, t') => (.error f, t')
  simp only [bind, ExceptT.bind, ExceptT.mk, ExceptT.bindCont, StateT.bind]
  rcases x t with ⟨_ | _, t'⟩ <;> rfl

theorem run_ofExcept_bind {r : Except ε α} {x : α} (h : r = .ok x) (failure : ε → Failure)
    (k : α → Session β) (t : Transcript) :
    (ofExcept r failure >>= k).run.run t = (k x).run.run t := by
  rw [run_bind, h]
  rfl

theorem failsSilently_ofExcept_bind {r : Except ε α} {failure : ε → Failure} {k : α → Session β}
    (h : ∀ x, r = .ok x → (k x).FailsSilently) : (ofExcept r failure >>= k).FailsSilently := by
  intro t f hf
  cases r with
  | error _ => rfl
  | ok x => exact h x rfl t f hf

theorem failsSilently_of_succeeds {x : Session α} (h : ∀ t, x.Succeeds t) : x.FailsSilently := by
  intro t f hf
  obtain ⟨a, ha⟩ := h t
  rw [ha] at hf
  cases hf

theorem succeeds_ofExcept_bind {r : Except ε α} {failure : ε → Failure} {k : α → Session β}
    {t : Transcript} :
    (ofExcept r failure >>= k).Succeeds t ↔ ∃ x, r = .ok x ∧ (k x).Succeeds t := by
  unfold Succeeds
  rw [run_bind]
  cases r with
  | error _ => exact ⟨fun ⟨_, h⟩ => (nomatch h), fun ⟨_, h, _⟩ => (nomatch h)⟩
  | ok x => exact ⟨fun h => ⟨x, rfl, h⟩, fun ⟨_, h, h'⟩ => by cases h; exact h'⟩

theorem succeeds_write (text : String) (t : Transcript) : (write text).Succeeds t := ⟨(), rfl⟩

theorem succeeds_writeLines (lines : List String) (t : Transcript) :
    (writeLines lines).Succeeds t := ⟨(), rfl⟩

/-! ### Notes -/

section
variable {env : Surroundings} {line : String} {t : Transcript}

theorem run_note_of_ok (h : env.takeNote t.notes line = .ok ()) :
    (note env line).run.run t = (.ok (), { t with notes := t.notes ++ [line] }) := by
  show (ofExcept _ _ >>= _).run.run t = _
  rw [run_ofExcept_bind h]
  rfl

theorem run_note_of_error {f : FileFault} (h : env.takeNote t.notes line = .error f) :
    (note env line).run.run t = (.error { message := f.message }, t) := by
  show (ofExcept _ _ >>= _).run.run t = _
  rw [run_bind, h]
  rfl

/-- Lines are noted in a row: all of them, or those before the first that is refused. -/
theorem run_notes (env : Surroundings) (lines : List String) (ht : t.notes = []) :
    (env.Takes lines ∧ (lines.forM (note env)).run.run t = (.ok (), { t with notes := lines })) ∨
      ∃ taken f, env.Refuses lines taken f ∧ (lines.forM (note env)).run.run t
        = (.error { message := f.message }, { t with notes := taken }) := by
  induction lines using List.reverseRecOn with
  | nil =>
    obtain ⟨output, notes⟩ := t
    obtain rfl : notes = [] := ht
    exact .inl ⟨takes_nil, rfl⟩
  | append_singleton lines line ih =>
    have hsplit : (lines ++ [line]).forM (note env)
        = lines.forM (note env) >>= fun _ => note env line := by
      simp
    rw [hsplit, run_bind]
    obtain ⟨htakes, hrun⟩ | ⟨taken, f, hrefuses, hrun⟩ := ih
    · rw [hrun]
      cases hlast : env.takeNote lines line with
      | ok _ => exact .inl ⟨takes_concat.2 ⟨htakes, hlast⟩, run_note_of_ok hlast⟩
      | error f => exact .inr ⟨lines, f, ⟨line, [], rfl, htakes, hlast⟩, run_note_of_error hlast⟩
    · rw [hrun]
      exact .inr ⟨taken, f, hrefuses.concat line, rfl⟩

end

end Session

end CodeIdioms.CommandLine
