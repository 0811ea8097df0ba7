import CodeIdioms.Proofs.Detection.Exactness
import CodeIdioms.Proofs.Rule.FirstMatch
import Mathlib

/-! # Findings of the rule dialect

With the engine of the rule dialect, a finding is the first match of the rule of its idiom
(`exists_isFirst_of_fires`), and an idiom fires if its rule is not too large and matches anywhere in a
source that words can count (`exists_fires_of_matches`). -/

namespace CodeIdioms

namespace RuleEngine

theorem compile_eq_ok {rule : String} {limits : RuleLimits} {program : Rule.Program} :
    compile rule limits = .ok program ↔ ∃ e, Rule.Expr.ofRule? rule = some e ∧
      e.cost ≤ limits.size.toNat ∧ e.core.program = program := by
  unfold compile
  cases Rule.Expr.ofRule? rule with
  | none => simp
  | some e => by_cases hcost : e.cost ≤ limits.size.toNat <;> simp [hcost]

/-- A search of the engine is one of the program, as long as words can count the text. -/
theorem search_eq_some {program : Rule.Program} {source : String} {start stop : UInt64} :
    search program source = some (start, stop) ↔
      program.find source = some (start.toNat, stop.toNat) := by
  unfold search
  rw [Option.bind_eq_some_iff]
  constructor
  · rintro ⟨⟨first, last⟩, hfind, hword⟩
    have hle := (Rule.Program.isRange_find hfind).le
    by_cases hlast : last < UInt64.size
    · rw [if_pos hlast] at hword
      obtain ⟨rfl, rfl⟩ := Prod.mk.inj (Option.some.inj hword)
      rw [hfind, Nat.toUInt64_eq, Nat.toUInt64_eq, UInt64.toNat_ofNat_of_lt' hlast,
        UInt64.toNat_ofNat_of_lt' (Nat.lt_of_le_of_lt hle hlast)]
    · rw [if_neg hlast] at hword
      cases hword
  · intro hfind
    refine ⟨_, hfind, ?_⟩
    rw [if_pos stop.toNat_lt]
    simp

end RuleEngine

/-! ### Sizes of rules -/

/-- A range takes at most 57 bytes. -/
theorem Rule.Expr.setCost_le {s : Text.Ranges} {n : Nat} (h : s.length ≤ n) :
    setCost s ≤ 32 + 57 * n := by
  have hfold (s : Text.Ranges) (n : Nat) : s.foldl (fun n r => n + if r.2 < 0x80 then 8 else 57) n
      ≤ n + 57 * s.length := by
    induction s generalizing n with
    | nil => exact Nat.le_refl _
    | cons r s ih =>
      rw [List.foldl_cons, List.length_cons]
      refine Nat.le_trans (ih _) ?_
      split <;> omega
  exact Nat.le_trans (hfold s 32) (Nat.add_le_add_left (Nat.mul_le_mul_left 57 h) 32)

theorem Rule.Expr.cost_concat_le (es : List Rule.Expr) : (concat es).cost ≤ 32 + (es.map cost).sum := by
  induction es with
  | nil => exact Nat.le_refl _
  | cons e es ih =>
    rw [List.map_cons, List.sum_cons]
    cases es with
    | nil =>
      unfold concat
      omega
    | cons e' es =>
      show e.cost + (concat (e' :: es)).cost ≤ _
      omega

/-! ### First matches -/

section
variable {s : DetectSettings} {source : String} {p : Idiom}

/-- What is found of an idiom that fires is the first match of its rule. -/
theorem exists_isFirst_of_fires {start stop : UInt64} {f : Finding}
    (h : Fires .standard s source p start stop) (hreports : f.Reports p source start stop) :
    ∃ e before after, Rule.Expr.ofRule? p.rule = some e ∧ source = before ++ f.text ++ after ∧
      before.utf8ByteSize = start.toNat ∧ (before ++ f.text).utf8ByteSize = stop.toNat ∧
      e.core.IsFirst before f.text after := by
  obtain ⟨program, hbuild, hfind⟩ := h.found
  obtain ⟨e, he, -, rfl⟩ := RuleEngine.compile_eq_ok.1 hbuild
  obtain ⟨before, middle, after, hsource, hbefore, hmiddle, hfirst⟩ :=
    Rule.Core.exists_isFirst_of_find (RuleEngine.search_eq_some.1 hfind)
  obtain ⟨before', after', hsource', hbefore', hmiddle'⟩ := hreports.text
  obtain ⟨hbegin, rfl⟩ :=
    Text.eq_of_append_eq (hsource'.symm.trans hsource) (hmiddle'.trans hmiddle.symm)
  obtain ⟨rfl, rfl⟩ := Text.eq_of_append_eq hbegin (hbefore'.trans hbefore.symm)
  exact ⟨e, before', after', he, hsource, hbefore, hmiddle, hfirst⟩

/-- An idiom fires if its rule is not too large and matches somewhere in a text that words can
count. -/
theorem exists_fires_of_matches {e : Rule.Expr} {i j : Nat}
    (he : Rule.Expr.ofRule? p.rule = some e) (hcost : e.cost ≤ s.ruleSizeLimit.toNat)
    (hmatch : e.core.Matches source.toList.toArray i j) (hi : i ≤ source.toList.length)
    (hsize : source.utf8ByteSize < UInt64.size) (htrusted : ¬ p.confidence < s.minConfidence) :
    ∃ start stop, Fires .standard s source p start stop := by
  obtain ⟨first, last, hfind⟩ := Rule.Core.exists_find_of_matches hmatch hi
  have hrange := Rule.Program.isRange_find hfind
  have hlast : last < UInt64.size := Nat.lt_of_le_of_lt hrange.stop_valid.le_utf8ByteSize hsize
  have hbuild : RuleEngine.standard.build p.rule s.limits = .ok e.core.program :=
    RuleEngine.compile_eq_ok.2 ⟨e, he, hcost, rfl⟩
  refine ⟨first.toUInt64, last.toUInt64, ⟨_, hbuild, RuleEngine.search_eq_some.2 ?_⟩, htrusted⟩
  rw [hfind, Nat.toUInt64_eq, Nat.toUInt64_eq, UInt64.toNat_ofNat_of_lt' hlast,
    UInt64.toNat_ofNat_of_lt' (Nat.lt_of_le_of_lt hrange.le hlast)]

end

end CodeIdioms
