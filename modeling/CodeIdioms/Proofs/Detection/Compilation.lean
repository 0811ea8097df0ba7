import CodeIdioms.Proofs.Detection.Division

/-! # The rules of a list of idioms

Building rules goes through the idioms once and sorts them into built and rejected rules.  Here both
lists are given in closed form: each is what one function of an idiom and its position selects from
the idioms in their order. -/

namespace CodeIdioms.RuleSet

variable (E : RuleEngine) (limits : RuleLimits)

/-- The built rule of an idiom at a position, if its rule can be built. -/
def built? (x : Idiom × Nat) : Option (CompiledRule E) :=
  (E.build x.1.rule limits).toOption.map fun program => ⟨x.2, program⟩

/-- The rejected rule of an idiom, if its rule cannot be built. -/
def refused? (p : Idiom) : Option RejectedRule :=
  match E.build p.rule limits with
  | .ok _ => none
  | .error reason => some ⟨p.id, p.rule, reason⟩

theorem rules_compileFrom (i : Nat) (ps : List Idiom) :
    (compileFrom E limits i ps).rules = (ps.zipIdx i).filterMap (built? E limits) := by
  induction ps generalizing i with
  | nil => rfl
  | cons p ps ih =>
    rw [List.zipIdx_cons, List.filterMap_cons]
    unfold compileFrom built?
    cases E.build p.rule limits with
    | ok program => exact congrArg (List.cons _) (ih (i + 1))
    | error reason => exact ih (i + 1)

theorem rejected_compileFrom (i : Nat) (ps : List Idiom) :
    (compileFrom E limits i ps).rejected = ps.filterMap (refused? E limits) := by
  induction ps generalizing i with
  | nil => rfl
  | cons p ps ih =>
    rw [List.filterMap_cons]
    unfold compileFrom refused?
    cases E.build p.rule limits with
    | ok program => exact ih (i + 1)
    | error reason => exact congrArg (List.cons _) (ih (i + 1))

variable {E limits}

theorem id_of_refused? {p : Idiom} {r : RejectedRule} (h : refused? E limits p = some r) :
    r.id = p.id := by
  unfold refused? at h
  split at h
  · cases h
  · exact (congrArg RejectedRule.id (Option.some.inj h)).symm

/-- A built rule of a catalog points to the idiom whose rule it is. -/
theorem getElem?_of_mem_rules {c : Catalog} {s : DetectSettings} {r : CompiledRule E}
    (h : r ∈ (compile E c s).rules) :
    ∃ p, c.idioms[r.index]? = some p ∧ E.build p.rule s.limits = .ok r.program := by
  obtain ⟨placed, hdivision⟩ := exists_isDivision E s.limits c.idioms
  exact hdivision.built r h

end CodeIdioms.RuleSet
