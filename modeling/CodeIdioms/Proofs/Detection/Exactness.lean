import CodeIdioms.Proofs.Detection.Ranking

/-! # What detection reports

A detector reports an idiom exactly if its rule can be built, it is not below the threshold, and its
rule finds something (`Fires`); it reports it once, at the range that the rule finds.  The findings
come by the total order of their confidences, the greatest first, and in catalog order where
confidences are the same (`Precedes`).  Both are said of findings together with the positions of
their idioms in the catalog, and hold of every rule engine and every catalog (`isReport_detect`). -/

namespace CodeIdioms

/-- An idiom fires in a text at a range: its rule is built and finds the range first, and the idiom
is not below the threshold. -/
structure Fires (E : RuleEngine) (s : DetectSettings) (source : String) (p : Idiom)
    (start stop : UInt64) : Prop where
  found : ∃ program, E.build p.rule s.limits = .ok program ∧
    E.find program source = some (start, stop)
  trusted : ¬ p.confidence < s.minConfidence

/-- The strict order of findings with their positions: greater confidence in the total order of
doubles first, then the smaller position. -/
def Precedes (a b : Nat × Finding) : Prop :=
  Decimal.orderKey b.2.confidence < Decimal.orderKey a.2.confidence ∨
    Decimal.orderKey a.2.confidence = Decimal.orderKey b.2.confidence ∧ a.1 < b.1

/-- Findings with positions that report a catalog over a text: all idioms that fire and no others,
each once, in order. -/
structure IsReport (E : RuleEngine) (c : Catalog) (s : DetectSettings) (source : String)
    (fs : List (Nat × Finding)) : Prop where
  sound : ∀ x ∈ fs, ∃ p start stop, c.idioms[x.1]? = some p ∧ Fires E s source p start stop ∧
    x.2.Reports p source start stop
  complete : ∀ i p start stop, c.idioms[i]? = some p → Fires E s source p start stop →
    ∃ f, (i, f) ∈ fs ∧ f.Reports p source start stop
  positions : (fs.map (·.1)).Nodup
  ids : (fs.map (·.2.idiom.id)).Nodup
  ordered : fs.Pairwise Precedes

namespace Detector

section
variable {E : RuleEngine} {source : String}

/-- An idiom that fires occurs, and its occurrence reports the range at which it fires. -/
theorem exists_occurrence?_of_fires {s : DetectSettings} {p : Idiom} {start stop : UInt64}
    (h : Fires E s source p start stop) :
    ∃ f, occurrence? E s.limits source p = some f ∧ f.Reports p source start stop := by
  obtain ⟨program, hb, hf⟩ := h.found
  obtain ⟨f, hat, hr⟩ := Finding.exists_at?_of_isRange p (E.find_isRange hf)
  refine ⟨f, ?_, hr⟩
  unfold occurrence?
  rw [hb]
  show (E.find program source).bind _ = _
  rw [hf]
  exact hat

/-- An occurrence that reaches the threshold is one of an idiom that fires. -/
theorem fires_of_occurrence? {s : DetectSettings} {p : Idiom} {f : Finding}
    (h : occurrence? E s.limits source p = some f) (hm : reaches s.minConfidence f = true) :
    ∃ start stop, Fires E s source p start stop ∧ f.Reports p source start stop := by
  have hconf := (eq_of_occurrence? h).2
  obtain ⟨program, hb, hocc⟩ := Option.bind_eq_some_iff.1 h
  obtain ⟨⟨start, stop⟩, hf, _⟩ := Option.bind_eq_some_iff.1 hocc
  have hbuild : E.build p.rule s.limits = .ok program := by
    cases hx : E.build p.rule s.limits with
    | error reason => rw [hx] at hb; cases hb
    | ok program' => rw [hx] at hb; exact congrArg Except.ok (Option.some.inj hb)
  have hfires : Fires E s source p start stop :=
    ⟨⟨program, hbuild, hf⟩, by simpa [reaches, hconf] using hm⟩
  obtain ⟨f', hf', hr⟩ := exists_occurrence?_of_fires hfires
  obtain rfl := Option.some.inj (h.symm.trans hf')
  exact ⟨start, stop, hfires, hr⟩

end

section
variable (E : RuleEngine) (limits : RuleLimits) (source : String)

/-- The occurrence of an idiom together with its position. -/
def placed? (x : Idiom × Nat) : Option (Nat × Finding) :=
  (occurrence? E limits source x.1).map fun f => (x.2, f)

/-- The ranking of the occurrences of idioms, with their positions. -/
def placedRanking (ps : List Idiom) : List (Nat × Finding) :=
  (ps.zipIdx.filterMap (placed? E limits source)).mergeSort fun a b => ranked a.2 b.2

theorem map_snd_placedRanking (ps : List Idiom) :
    (placedRanking E limits source ps).map (·.2) = ranking E limits source ps := by
  have hsnd : (ps.zipIdx.filterMap (placed? E limits source)).map (·.2)
      = ps.filterMap (occurrence? E limits source) := by
    rw [List.map_filterMap]
    conv => rhs; rw [← List.zipIdx_map_fst 0 ps, List.filterMap_map]
    apply List.filterMap_congr
    intro x _
    unfold placed?
    rw [Option.map_map]
    exact Option.map_id'
  unfold placedRanking ranking
  rw [← hsnd]
  exact List.map_mergeSort fun _ _ _ _ => rfl

theorem mem_placedRanking {ps : List Idiom} {i : Nat} {f : Finding} :
    (i, f) ∈ placedRanking E limits source ps
      ↔ ∃ p, ps[i]? = some p ∧ occurrence? E limits source p = some f := by
  unfold placedRanking
  rw [List.mem_mergeSort, List.mem_filterMap]
  constructor
  · rintro ⟨⟨p, j⟩, hmem, hp⟩
    obtain ⟨g, hg, hpair⟩ := Option.map_eq_some_iff.1 hp
    obtain ⟨rfl, rfl⟩ := Prod.mk.inj hpair
    exact ⟨p, by simpa using List.mem_zipIdx_iff_getElem?.1 hmem, hg⟩
  · rintro ⟨p, hp, hf⟩
    exact ⟨(p, i), List.mem_zipIdx_iff_getElem?.2 (by simpa using hp),
      Option.map_eq_some_iff.2 ⟨f, hf, rfl⟩⟩

theorem pairwise_placed (ps : List Idiom) :
    (ps.zipIdx.filterMap (placed? E limits source)).Pairwise fun a b => a.1 < b.1 := by
  have hidx : ps.zipIdx.Pairwise fun a b => a.2 < b.2 := by
    rw [← List.pairwise_map, List.zipIdx_map_snd]
    exact List.pairwise_lt_range'
  refine hidx.filterMap _ fun x y hxy a ha b hb => ?_
  obtain ⟨f, _, rfl⟩ := Option.map_eq_some_iff.1 ha
  obtain ⟨g, _, rfl⟩ := Option.map_eq_some_iff.1 hb
  exact hxy

theorem nodup_positions_placedRanking (ps : List Idiom) :
    ((placedRanking E limits source ps).map (·.1)).Nodup := by
  have hlt := List.pairwise_map.2 (pairwise_placed E limits source ps)
  unfold placedRanking
  rw [((List.mergeSort_perm _ _).map _).nodup_iff]
  exact hlt.imp Nat.ne_of_lt

/-- Positions ascend from one occurrence to the next, so after sorting they ascend among
occurrences that are equally trusted. -/
theorem precedes_placedRanking (ps : List Idiom) :
    (placedRanking E limits source ps).Pairwise Precedes := by
  have hstable : (placedRanking E limits source ps).Pairwise fun a b =>
      ranked a.2 b.2 ∧ (ranked b.2 a.2 → a.1 < b.1) :=
    StableSort.pairwise_mergeSort (fun a b c => ranked_trans a.2 b.2 c.2)
      (fun a b => ranked_total a.2 b.2) (pairwise_placed E limits source ps)
  refine hstable.imp fun {a b} h => ?_
  obtain ⟨hle, htie⟩ := h
  simp only [ranked, Decimal.totalLe, decide_eq_true_eq] at hle htie
  unfold Precedes
  by_cases hge : Decimal.orderKey a.2.confidence ≤ Decimal.orderKey b.2.confidence
  · exact Or.inr ⟨by omega, htie hge⟩
  · exact Or.inl (by omega)

/-- Idioms with distinct ids give occurrences of idioms with distinct ids. -/
theorem nodup_ids_ranking {ps : List Idiom} (h : (ps.map (·.id)).Nodup) :
    ((ranking E limits source ps).map (·.idiom.id)).Nodup := by
  have hsub : ((ps.filterMap (occurrence? E limits source)).map (·.idiom.id)).Sublist
      (ps.map (·.id)) := by
    rw [List.map_filterMap]
    clear h
    induction ps with
    | nil => exact List.Sublist.refl _
    | cons p ps ih =>
      rw [List.filterMap_cons]
      cases ho : occurrence? E limits source p with
      | none => exact ih.cons _
      | some f =>
        rw [Option.map_some, (eq_of_occurrence? ho).1]
        exact ih.cons_cons _
  unfold ranking
  rw [((List.mergeSort_perm _ _).map _).nodup_iff]
  exact h.sublist hsub

end

section
variable {E : RuleEngine} {source : String} {c : Catalog} {s : DetectSettings}

/-- An idiom fires at the range that its rule finds once it is built. -/
theorem fires_of_find {p : Idiom} {start stop : UInt64}
    (h : ((E.build p.rule s.limits).toOption.bind fun program => E.find program source)
      = some (start, stop)) (htrusted : ¬ p.confidence < s.minConfidence) :
    Fires E s source p start stop := by
  cases hbuild : E.build p.rule s.limits with
  | ok program =>
    rw [hbuild] at h
    exact ⟨⟨program, hbuild, h⟩, htrusted⟩
  | error reason =>
    rw [hbuild] at h
    cases h

/-- What is found is an idiom of the catalog that fires. -/
theorem exists_fires_of_mem_detect {f : Finding} (h : f ∈ (new E c s).detect source) :
    ∃ p ∈ c.idioms, ∃ start stop, Fires E s source p start stop ∧ f.Reports p source start stop := by
  rw [detect_new] at h
  obtain ⟨hranking, hreaches⟩ := List.mem_filter.1 h
  obtain ⟨p, hp, hoccurs⟩ := List.mem_filterMap.1 (List.mem_mergeSort.1 hranking)
  exact ⟨p, hp, fires_of_occurrence? hoccurs hreaches⟩

/-- An idiom of the catalog that fires is found. -/
theorem exists_mem_detect_of_fires {p : Idiom} {start stop : UInt64} (hp : p ∈ c.idioms)
    (h : Fires E s source p start stop) :
    ∃ f ∈ (new E c s).detect source, f.Reports p source start stop := by
  obtain ⟨f, hoccurs, hreports⟩ := exists_occurrence?_of_fires h
  have hreaches : reaches s.minConfidence f = true := by
    simpa [reaches, hreports.confidence] using h.trusted
  refine ⟨f, ?_, hreports⟩
  rw [detect_new]
  exact List.mem_filter.2
    ⟨List.mem_mergeSort.2 (List.mem_filterMap.2 ⟨p, hp, hoccurs⟩), hreaches⟩

end

/-- **Detection is exact.**  Every built rule belongs to the idiom at its position, and the findings
of a detector in a text are, with the positions of their idioms, the report of its catalog. -/
theorem isReport_detect (E : RuleEngine) (c : Catalog) (s : DetectSettings) (source : String) :
    (∀ r ∈ (new E c s).ruleSet.rules,
      ∃ p, c.idioms[r.index]? = some p ∧ E.build p.rule s.limits = .ok r.program) ∧
    ∃ fs, fs.map (·.2) = (new E c s).detect source ∧ IsReport E c s source fs := by
  refine ⟨fun r hr => RuleSet.getElem?_of_mem_rules hr, ?_⟩
  let all := placedRanking E s.limits source c.idioms
  have hall : all.map (·.2) = ranking E s.limits source c.idioms :=
    map_snd_placedRanking E s.limits source c.idioms
  refine ⟨all.filter fun x => reaches s.minConfidence x.2, ?_, ?_⟩
  · rw [detect_new, ← hall, List.filter_map]
    rfl
  · have hordered : (all.filter fun x => reaches s.minConfidence x.2).Pairwise Precedes :=
      (precedes_placedRanking E s.limits source c.idioms).filter _
    have hids : (all.map (·.2.idiom.id)).Nodup := by
      have h := nodup_ids_ranking E s.limits source c.distinct
      rwa [← hall, List.map_map] at h
    refine ⟨?_, ?_, ?_, ?_, hordered⟩
    · rintro ⟨i, f⟩ hx
      obtain ⟨hmem, hm⟩ := List.mem_filter.1 hx
      obtain ⟨p, hp, ho⟩ := (mem_placedRanking E s.limits source).1 hmem
      obtain ⟨start, stop, hfires, hr⟩ := fires_of_occurrence? ho hm
      exact ⟨p, start, stop, hp, hfires, hr⟩
    · intro i p start stop hp hfires
      obtain ⟨f, ho, hr⟩ := exists_occurrence?_of_fires hfires
      refine ⟨f, List.mem_filter.2 ⟨?_, ?_⟩, hr⟩
      · exact (mem_placedRanking E s.limits source).2 ⟨p, hp, ho⟩
      · simpa [reaches, hr.confidence] using hfires.trusted
    · exact (nodup_positions_placedRanking E s.limits source c.idioms).sublist
        (List.filter_sublist.map _)
    · exact hids.sublist (List.filter_sublist.map _)

end Detector

end CodeIdioms
