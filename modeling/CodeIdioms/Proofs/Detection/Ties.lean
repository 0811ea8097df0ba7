import CodeIdioms.Proofs.Decimal.Order
import CodeIdioms.Proofs.Detection.Exactness
import CodeIdioms.Proofs.Detection.Independence

/-! # Ties between findings

Findings come by the total order of their confidences, and in catalog order where that order does
not decide (`precedes_iff`).  By value the confidences decide less: the two zeros are equal.  So of
two findings the one of greater confidence comes first, and of two with equal confidences the one
whose idiom comes first in the catalog, but for the zeros, where a positive zero comes before a
negative one wherever their idioms stand (`getElem?_detect_order`). -/

namespace CodeIdioms

/-! ### The order of placed findings -/

theorem Precedes.asymm {a b : Nat × Finding} (h : Precedes a b) : ¬ Precedes b a := by
  unfold Precedes at h ⊢
  omega

/-- In a list in order, the order of two places is that of the findings at them. -/
theorem lt_iff_precedes {fs : List (Nat × Finding)} (h : fs.Pairwise Precedes) {i j : Nat}
    {a b : Nat × Finding} (ha : fs[i]? = some a) (hb : fs[j]? = some b) :
    i < j ↔ Precedes a b := by
  obtain ⟨hi, rfl⟩ := List.getElem?_eq_some_iff.1 ha
  obtain ⟨hj, rfl⟩ := List.getElem?_eq_some_iff.1 hb
  have hpairs := List.pairwise_iff_getElem.1 h
  constructor
  · exact hpairs i j hi hj
  · intro hprecedes
    rcases Nat.lt_trichotomy i j with hij | rfl | hji
    · exact hij
    · exact absurd hprecedes hprecedes.asymm
    · exact absurd hprecedes (hpairs j i hj hi hji).asymm

theorem precedes_of_lt {a b : Nat × Finding} (h : b.2.confidence < a.2.confidence) :
    Precedes a b := .inl (Decimal.orderKey_lt_of_lt h)

/-- Of two findings with equal confidences the one at the smaller position precedes, but for a
negative zero there and a positive zero in the other. -/
theorem precedes_iff_of_beq {a b : Nat × Finding}
    (h : (a.2.confidence == b.2.confidence) = true) (hlt : a.1 < b.1) :
    Precedes a b ↔ ¬ (a.2.confidence = -0.0 ∧ b.2.confidence = 0.0) := by
  have hzeros : Decimal.orderKey (-0.0) < Decimal.orderKey 0.0 := by decide
  unfold Precedes
  rcases Decimal.eq_or_zeros_of_beq h with heq | ⟨ha, hb⟩ | ⟨ha, hb⟩
  · have hnot : ¬ (a.2.confidence = -0.0 ∧ b.2.confidence = 0.0) := by
      rintro ⟨ha, hb⟩
      rw [heq, hb] at ha
      exact absurd ha (by decide)
    exact iff_of_true (.inr ⟨congrArg Decimal.orderKey heq, hlt⟩) hnot
  · rw [ha, hb]
    exact iff_of_true (.inl hzeros) fun hab => absurd hab.1 (by decide)
  · rw [ha, hb]
    exact iff_of_false (by omega) fun hnot => hnot ⟨rfl, rfl⟩

namespace Detector

/-- The findings of a detector with the positions of their idioms, in order. -/
theorem exists_placed (E : RuleEngine) (c : Catalog) (s : DetectSettings) (source : String) :
    ∃ fs : List (Nat × Finding), fs.map (·.2) = (new E c s).detect source ∧
      fs.Pairwise Precedes ∧ ∀ x ∈ fs, c.idioms[x.1]? = some x.2.idiom := by
  let all := placedRanking E s.limits source c.idioms
  refine ⟨all.filter fun x => reaches s.minConfidence x.2, ?_, ?_, ?_⟩
  · rw [detect_new, ← map_snd_placedRanking, List.filter_map]
    rfl
  · exact (precedes_placedRanking E s.limits source c.idioms).filter _
  · rintro ⟨k, f⟩ hx
    obtain ⟨p, hp, hoccurs⟩ :=
      (mem_placedRanking E s.limits source).1 (List.mem_filter.1 hx).1
    rw [(eq_of_occurrence? hoccurs).1]
    exact hp

theorem position_unique {c : Catalog} {p : Idiom} {k k' : Nat} (h : c.idioms[k]? = some p)
    (h' : c.idioms[k']? = some p) : k = k' := by
  obtain ⟨hk, hp⟩ := List.getElem?_eq_some_iff.1 h
  obtain ⟨hk', hp'⟩ := List.getElem?_eq_some_iff.1 h'
  have hnodup : c.idioms.Nodup := List.Nodup.of_map _ c.distinct
  exact (hnodup.getElem_inj_iff).1 (hp.trans hp'.symm)

/-- **Order of findings.**  Of two findings in a text, the one of greater confidence comes first.  If
their confidences are equal, the one whose idiom stands first in the catalog comes first, unless its
confidence is the negative zero and that of the other one is the positive zero. -/
theorem getElem?_detect_order (E : RuleEngine) (c : Catalog) (s : DetectSettings) (source : String)
    {i j k k' : Nat} {f f' : Finding} (hf : ((new E c s).detect source)[i]? = some f)
    (hf' : ((new E c s).detect source)[j]? = some f') (hk : c.idioms[k]? = some f.idiom)
    (hk' : c.idioms[k']? = some f'.idiom) :
    (f'.confidence < f.confidence → i < j) ∧
      ((f.confidence == f'.confidence) = true → k < k' →
        (i < j ↔ ¬ (f.confidence = -0.0 ∧ f'.confidence = 0.0))) := by
  obtain ⟨fs, hfs, hordered, hplaced⟩ := exists_placed E c s source
  have hplace {i k : Nat} {f : Finding} : ((new E c s).detect source)[i]? = some f →
      c.idioms[k]? = some f.idiom → fs[i]? = some (k, f) := by
    intro hf hk
    rw [← hfs, List.getElem?_map, Option.map_eq_some_iff] at hf
    obtain ⟨⟨l, g⟩, hx, rfl⟩ := hf
    rw [hx, position_unique hk (hplaced _ (List.mem_of_getElem? hx))]
  have hiff := lt_iff_precedes hordered (hplace hf hk) (hplace hf' hk')
  constructor
  · intro hlt
    exact hiff.2 (precedes_of_lt hlt)
  · intro heq hlt
    exact hiff.trans (precedes_iff_of_beq heq hlt)

/-- A catalog of a negative zero and then a positive zero. -/
def signedZeros : Catalog :=
  { idioms := [{ Builtin.promiseThen with confidence := -0.0 },
      { Builtin.arrayReduce with confidence := 0.0 }]
    distinct := by decide
    valid := by decide }

/-- Both idioms are found, the second one of the catalog first. -/
theorem exists_detect_signedZeros :
    ∃ f f', (new .standard signedZeros {}).detect ".then(.reduce(" = [f', f] ∧
      signedZeros.idioms = [f.idiom, f'.idiom] ∧ f.confidence = -0.0 ∧ f'.confidence = 0.0 := by
  let limits := ({} : DetectSettings).limits
  let occurs (p : Idiom) := occurrence? .standard limits ".then(.reduce(" p
  have hthen : (occurs { Builtin.promiseThen with confidence := -0.0 }).isSome = true := by
    decide +kernel
  have hreduce : (occurs { Builtin.arrayReduce with confidence := 0.0 }).isSome = true := by
    decide +kernel
  obtain ⟨f, hf⟩ := Option.isSome_iff_exists.1 hthen
  obtain ⟨f', hf'⟩ := Option.isSome_iff_exists.1 hreduce
  obtain ⟨hidiom, hconf⟩ := eq_of_occurrence? hf
  obtain ⟨hidiom', hconf'⟩ := eq_of_occurrence? hf'
  refine ⟨f, f', ?_, ?_, hconf, hconf'⟩
  · have hranked : ranked f f' = false := by
      unfold ranked
      rw [hconf, hconf']
      decide
    have hfilter : signedZeros.idioms.filterMap occurs = [f, f'] := by
      show List.filterMap occurs [_, _] = _
      rw [List.filterMap_cons_some hf, List.filterMap_cons_some hf', List.filterMap_nil]
    have hranking : ranking .standard limits ".then(.reduce(" signedZeros.idioms = [f', f] := by
      unfold ranking
      rw [hfilter]
      simp [List.mergeSort, List.MergeSort.Internal.splitInTwo, hranked]
    rw [detect_new, hranking]
    unfold reaches
    rw [List.filter_cons_of_pos, List.filter_cons_of_pos, List.filter_nil]
    · rw [hconf]
      decide
    · rw [hconf']
      decide
  · rw [hidiom, hidiom']
    rfl

/-- The tie between the zeros goes against the catalog. -/
theorem not_catalog_order_signedZeros :
    ¬ ∀ (c : Catalog) (s : DetectSettings) (source : String) (i j k k' : Nat) (f f' : Finding),
      ((new .standard c s).detect source)[i]? = some f →
      ((new .standard c s).detect source)[j]? = some f' →
      c.idioms[k]? = some f.idiom → c.idioms[k']? = some f'.idiom →
      (f.confidence == f'.confidence) = true → k < k' → i < j := by
  intro hclaim
  obtain ⟨f, f', hdetect, hidioms, hconf, hconf'⟩ := exists_detect_signedZeros
  have hbeq : (f.confidence == f'.confidence) = true := by
    rw [hconf, hconf']
    decide
  have hlt := hclaim signedZeros {} ".then(.reduce(" 1 0 0 1 f f' (by rw [hdetect]; rfl)
    (by rw [hdetect]; rfl) (by rw [hidioms]; rfl) (by rw [hidioms]; rfl) hbeq (by decide)
  exact absurd hlt (by decide)

/-- The order of the two findings over the zeros. -/
theorem getElem?_detect_order_signedZeros :
    ∃ f f', ((new .standard signedZeros {}).detect ".then(.reduce(")[1]? = some f ∧
      ((new .standard signedZeros {}).detect ".then(.reduce(")[0]? = some f' ∧
      signedZeros.idioms[0]? = some f.idiom ∧ signedZeros.idioms[1]? = some f'.idiom ∧
      (f'.confidence < f.confidence → 1 < 0) ∧
        ((f.confidence == f'.confidence) = true → 0 < 1 →
          (1 < 0 ↔ ¬ (f.confidence = -0.0 ∧ f'.confidence = 0.0))) := by
  obtain ⟨f, f', hdetect, hidioms, -, -⟩ := exists_detect_signedZeros
  have hf : ((new .standard signedZeros {}).detect ".then(.reduce(")[1]? = some f := by
    rw [hdetect]
    rfl
  have hf' : ((new .standard signedZeros {}).detect ".then(.reduce(")[0]? = some f' := by
    rw [hdetect]
    rfl
  have hk : signedZeros.idioms[0]? = some f.idiom := by rw [hidioms]; rfl
  have hk' : signedZeros.idioms[1]? = some f'.idiom := by rw [hidioms]; rfl
  exact ⟨f, f', hf, hf', hk, hk',
    getElem?_detect_order .standard signedZeros {} ".then(.reduce(" hf hf' hk hk'⟩

end Detector

end CodeIdioms
