import CodeIdioms.Proofs.Detection.Ranking
import CodeIdioms.Proofs.Decimal.Order
import CodeIdioms.Catalog.Builtin

/-! # Independence of detection

Idioms do not interfere: adding idioms to a catalog, at any places and with any rules, moves no
finding of the others and takes none away (`filter_detect_of_sublist`).  The threshold does not
interfere either: raising it cuts off the tail of the findings (`detect_prefix_of_le`).  Both follow
from detection being a ranking, since stable sorting commutes with leaving out elements. -/

namespace CodeIdioms

/-! ### More idioms -/

namespace Catalog

theorem isSome_get? (c : Catalog) (id : String) :
    (c.get? id).isSome = decide (id ∈ c.idioms.map (·.id)) := by
  unfold get?
  rw [Bool.eq_iff_iff, List.find?_isSome]
  simp

/-- Of idioms with distinct ids, those whose ids occur in a part of them are that part. -/
theorem filter_ids_of_sublist {ps qs : List Idiom} (h : ps.Sublist qs)
    (hd : (qs.map (·.id)).Nodup) :
    qs.filter (fun q => decide (q.id ∈ ps.map (·.id))) = ps := by
  induction h with
  | slnil => rfl
  | @cons ps qs q hs ih =>
    obtain ⟨hq, hd⟩ := List.nodup_cons.1 hd
    have hout : q.id ∉ ps.map (·.id) := fun hm => hq ((hs.map _).subset hm)
    rw [List.filter_cons_of_neg (by simpa using hout), ih hd]
  | @cons_cons ps qs q hs ih =>
    obtain ⟨hq, hd⟩ := List.nodup_cons.1 hd
    have hsame : ∀ x ∈ qs, decide (x.id ∈ (q :: ps).map (·.id)) = decide (x.id ∈ ps.map (·.id)) := by
      intro x hx
      have hne : x.id ≠ q.id := fun he => hq (List.mem_map.2 ⟨x, hx, he⟩)
      rw [List.map_cons, decide_eq_decide, List.mem_cons]
      exact or_iff_right hne
    rw [List.filter_cons_of_pos (by simp), List.filter_congr hsame, ih hd]

/-- A catalog that is part of another is what the other keeps of the idioms of the first. -/
theorem filter_get?_of_sublist {c c' : Catalog} (h : c.idioms.Sublist c'.idioms) :
    c'.idioms.filter (fun p => (c.get? p.id).isSome) = c.idioms := by
  have hp : (fun p : Idiom => (c.get? p.id).isSome)
      = fun p => decide (p.id ∈ c.idioms.map (·.id)) := funext fun p => c.isSome_get? p.id
  rw [hp]
  exact filter_ids_of_sublist h c'.distinct

end Catalog

namespace Detector

variable {E : RuleEngine} {source : String}

theorem filter_ranking (limits : RuleLimits) (q : Idiom → Bool) (ps : List Idiom) :
    (ranking E limits source ps).filter (fun f => q f.idiom)
      = ranking E limits source (ps.filter q) := by
  unfold ranking
  rw [StableSort.filter_mergeSort ranked_trans ranked_total, Filtering.filter_filterMap_eq]
  intro p f hf
  rw [(eq_of_occurrence? hf).1]

/-- **Idioms do not interfere.**  Of what a detector finds and rejects, what belongs to the idioms
of a smaller catalog is what a detector over the smaller catalog finds and rejects. -/
theorem filter_detect_of_sublist (E : RuleEngine) {c c' : Catalog}
    (h : c.idioms.Sublist c'.idioms) (s : DetectSettings) (source : String) :
    ((new E c' s).detect source).filter (fun f => (c.get? f.idiom.id).isSome)
        = (new E c s).detect source ∧
      (new E c' s).rejected.filter (fun r => (c.get? r.id).isSome) = (new E c s).rejected := by
  constructor
  · rw [detect_new, detect_new, List.filter_comm,
      filter_ranking s.limits fun p => (c.get? p.id).isSome, Catalog.filter_get?_of_sublist h]
  · have hrej (c : Catalog) : (new E c s).rejected
        = c.idioms.filterMap (RuleSet.refused? E s.limits) :=
      RuleSet.rejected_compileFrom E s.limits 0 c.idioms
    rw [hrej, hrej, Filtering.filter_filterMap_eq (q := fun p => (c.get? p.id).isSome),
      Catalog.filter_get?_of_sublist h]
    intro p r hr
    rw [RuleSet.id_of_refused? hr]

/-- A catalog of two idioms. -/
def awaiting : Catalog :=
  { idioms := [Builtin.asyncAwait, Builtin.promiseThen]
    distinct := by decide
    valid := by decide }

/-- An idiom with a rule that cannot be built, which is trusted most. -/
def unclosed : Idiom :=
  { id := "unclosed", name := "Unclosed", category := .async, difficulty := .beginner
    rule := "[await", confidence := 1.0 }

/-- The two idioms, and one between them with a rule that cannot be built. -/
def interrupted : Catalog :=
  { idioms := [Builtin.asyncAwait, unclosed, Builtin.promiseThen]
    distinct := by decide
    valid := by decide }

theorem filter_detect_interrupted :
    awaiting.idioms.Sublist interrupted.idioms ∧
      ((new .standard interrupted {}).detect "await p.then(f)").filter
          (fun f => (awaiting.get? f.idiom.id).isSome)
        = (new .standard awaiting {}).detect "await p.then(f)" ∧
      (new .standard interrupted {}).rejected.filter (fun r => (awaiting.get? r.id).isSome)
        = (new .standard awaiting {}).rejected := by
  have h : awaiting.idioms.Sublist interrupted.idioms := .cons_cons _ (.cons _ (.refl _))
  exact ⟨h, filter_detect_of_sublist .standard h {} "await p.then(f)"⟩

/-! ### A higher threshold -/

theorem mem_ranking {limits : RuleLimits} {ps : List Idiom} {f : Finding}
    (h : f ∈ ranking E limits source ps) : ∃ p ∈ ps, f.confidence = p.confidence := by
  obtain ⟨p, hp, ho⟩ := List.mem_filterMap.1 (List.mem_mergeSort.1 h)
  exact ⟨p, hp, (eq_of_occurrence? ho).2⟩

/-- The confidence of an idiom of a catalog is no NaN. -/
theorem confidence_le_self {c : Catalog} {p : Idiom} (hp : p ∈ c.idioms) :
    p.confidence ≤ p.confidence := by
  have hv := c.valid p hp
  unfold Idiom.hasValidConfidence at hv
  rw [Bool.and_eq_true, decide_eq_true_eq, decide_eq_true_eq] at hv
  exact (Decimal.le_self_of_le hv.1).2

theorem reaches_eq_decide {c : Catalog} {limits : RuleLimits} {f : Finding} {m : Float}
    (h : f ∈ ranking E limits source c.idioms) (hm : m ≤ m) :
    reaches m f = decide (m ≤ f.confidence) := by
  obtain ⟨p, hp, hf⟩ := mem_ranking h
  have hself : f.confidence ≤ f.confidence := hf ▸ confidence_le_self hp
  unfold reaches
  rw [← decide_not, decide_eq_decide]
  exact Decimal.not_lt_iff_le hself hm

/-- **A higher threshold cuts off the tail.**  The findings with the higher one of two thresholds
are the first ones with the lower threshold, namely those of at least the higher confidence. -/
theorem detect_prefix_of_le (E : RuleEngine) (c : Catalog) (s : DetectSettings) (source : String)
    {m₁ m₂ : Float} (h : m₁ ≤ m₂) :
    (new E c { s with minConfidence := m₂ }).detect source
        <+: (new E c { s with minConfidence := m₁ }).detect source ∧
      (new E c { s with minConfidence := m₂ }).detect source
        = ((new E c { s with minConfidence := m₁ }).detect source).filter
            fun f => decide (m₂ ≤ f.confidence) := by
  obtain ⟨hm₁, hm₂⟩ := Decimal.le_self_of_le h
  let all := ranking E s.limits source c.idioms
  have hat (m : Float) (hm : m ≤ m) :
      (new E c { s with minConfidence := m }).detect source
        = all.filter fun f => decide (m ≤ f.confidence) := by
    rw [detect_new]
    exact List.filter_congr fun f hf => reaches_eq_decide hf hm
  have hsorted : all.Pairwise fun a b => ranked a b :=
    List.pairwise_mergeSort ranked_trans ranked_total _
  have hfilter : all.filter (fun f => decide (m₂ ≤ f.confidence))
      = (all.filter fun f => decide (m₁ ≤ f.confidence)).filter
          fun f => decide (m₂ ≤ f.confidence) := by
    rw [List.filter_filter]
    refine List.filter_congr fun f _ => ?_
    rw [← Bool.decide_and, decide_eq_decide]
    exact ⟨fun hf => ⟨hf, Decimal.le_trans h hf⟩, fun hf => hf.1⟩
  rw [hat m₁ hm₁, hat m₂ hm₂]
  refine ⟨?_, hfilter⟩
  rw [hfilter]
  refine Filtering.filter_prefix (hsorted.filter _) fun a b ha _ hab hb => ?_
  obtain ⟨p, hp, hconf⟩ := mem_ranking (List.mem_filter.1 ha).1
  simp only [ranked, Decimal.totalLe, decide_eq_true_eq] at hab hb ⊢
  exact Decimal.le_of_le_of_orderKey_le (hconf ▸ confidence_le_self hp) hb hab

/-- A catalog of an idiom with either zero for its confidence. -/
def untrusted : Catalog :=
  { idioms := [{ Builtin.asyncAwait with confidence := -0.0 },
      { Builtin.promiseThen with confidence := 0.0 }]
    distinct := by decide
    valid := by decide }

/-- The zeros are equal as thresholds, though not in the order of findings. -/
theorem detect_prefix_zero :
    (-0.0 : Float) ≤ 0.0 ∧
      (new .standard untrusted { minConfidence := 0.0 }).detect "await p.then(f)"
        <+: (new .standard untrusted { minConfidence := -0.0 }).detect "await p.then(f)" ∧
      (new .standard untrusted { minConfidence := 0.0 }).detect "await p.then(f)"
        = ((new .standard untrusted { minConfidence := -0.0 }).detect "await p.then(f)").filter
            fun f => decide (0.0 ≤ f.confidence) := by
  have h : (-0.0 : Float) ≤ 0.0 := by decide
  exact ⟨h, detect_prefix_of_le .standard untrusted {} "await p.then(f)" h⟩

end Detector

end CodeIdioms
