import CodeIdioms.Detection.Detector
import CodeIdioms.Proofs.Detection.Compilation
import CodeIdioms.Proofs.Location
import CodeIdioms.Proofs.StableSort

/-! # Detection as ranking

Detection looks at one idiom at a time: whether and where an idiom occurs in a text depends on its
own rule alone.  So detection is the ranking of all occurrences, less those below the threshold
(`detect_new`); positions in the catalog and the list of built rules no longer appear in it. -/

namespace CodeIdioms.Detector

theorem ranked_trans (a b c : Finding) (h : ranked a b = true) (h' : ranked b c = true) :
    ranked a c = true := by
  simp only [ranked, Decimal.totalLe, decide_eq_true_eq] at h h' ⊢
  omega

theorem ranked_total (a b : Finding) : (ranked a b || ranked b a) = true := by
  simp only [ranked, Decimal.totalLe, Bool.or_eq_true, decide_eq_true_eq]
  omega

variable (E : RuleEngine) (limits : RuleLimits) (source : String)

/-- The first occurrence of an idiom in a text, however much the idiom is trusted. -/
def occurrence? (p : Idiom) : Option Finding :=
  (E.build p.rule limits).toOption.bind fun program =>
    (E.find program source).bind fun r => Finding.at? p source r.1 r.2

/-- The occurrences of idioms in a text, greater confidence first. -/
def ranking (ps : List Idiom) : List Finding :=
  (ps.filterMap (occurrence? E limits source)).mergeSort ranked

/-- Whether a finding is not below a threshold. -/
def reaches (m : Float) (f : Finding) : Bool := !decide (f.confidence < m)

variable {E limits source}

theorem eq_of_occurrence? {p : Idiom} {f : Finding} (h : occurrence? E limits source p = some f) :
    f.idiom = p ∧ f.confidence = p.confidence := by
  obtain ⟨program, _, h⟩ := Option.bind_eq_some_iff.1 h
  obtain ⟨r, _, h⟩ := Option.bind_eq_some_iff.1 h
  exact Finding.eq_of_at? h

/-- The finding of a built rule is the occurrence of its idiom, if that reaches the threshold. -/
theorem findRule_new {c : Catalog} {s : DetectSettings} {r : CompiledRule E} {p : Idiom}
    (hp : c.idioms[r.index]? = some p) (hr : E.build p.rule s.limits = .ok r.program) :
    (new E c s).findRule source r
      = (occurrence? E s.limits source p).filter (reaches s.minConfidence) := by
  have hocc : occurrence? E s.limits source p
      = (E.find r.program source).bind fun r => Finding.at? p source r.1 r.2 := by
    unfold occurrence?
    rw [hr]
    rfl
  have hrule : (new E c s).findRule source r
      = if p.confidence < s.minConfidence then none else occurrence? E s.limits source p := by
    rw [hocc]
    unfold findRule new
    simp only [hp, Option.bind_eq_bind, Option.bind_some]
    rfl
  rw [hrule]
  cases ho : occurrence? E s.limits source p with
  | none => simp
  | some f =>
    rw [Option.filter_some, reaches, (eq_of_occurrence? ho).2]
    by_cases hm : p.confidence < s.minConfidence <;> simp [hm]

/-- Rules find what their idioms find, wherever in the catalog the idioms stand. -/
theorem filterMap_findRule (c : Catalog) (s : DetectSettings) :
    (new E c s).ruleSet.rules.filterMap ((new E c s).findRule source)
      = (c.idioms.filterMap (occurrence? E s.limits source)).filter (reaches s.minConfidence) := by
  have hrules : (new E c s).ruleSet.rules
      = c.idioms.zipIdx.filterMap (RuleSet.built? E s.limits) :=
    RuleSet.rules_compileFrom E s.limits 0 c.idioms
  rw [hrules, List.filterMap_filterMap, List.filter_filterMap]
  conv => rhs; rw [← List.zipIdx_map_fst 0 c.idioms, List.filterMap_map]
  apply List.filterMap_congr
  rintro ⟨p, i⟩ hx
  have hp : c.idioms[i]? = some p := by simpa using List.mem_zipIdx_iff_getElem?.1 hx
  unfold RuleSet.built?
  cases hb : E.build p.rule s.limits with
  | error reason =>
    have ho : occurrence? E s.limits source p = none := by
      unfold occurrence?
      rw [hb]
      rfl
    simp [ho, Except.toOption]
  | ok program =>
    exact findRule_new (r := ⟨i, program⟩) hp hb

/-- What a detector finds is the ranking of all occurrences, less those below its threshold. -/
theorem detect_new (c : Catalog) (s : DetectSettings) :
    (new E c s).detect source
      = (ranking E s.limits source c.idioms).filter (reaches s.minConfidence) := by
  unfold detect ranking
  rw [filterMap_findRule, StableSort.filter_mergeSort ranked_trans ranked_total]

end CodeIdioms.Detector
