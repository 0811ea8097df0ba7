import CodeIdioms.Rule.Dialect
import CodeIdioms.Rule.Search

/-! # Rule engines

Detection needs of rules only that they can be built within a limit and searched for.  An engine
is any pair of such functions; `RuleEngine.standard` is the one for the rule dialect. -/

namespace CodeIdioms

/-- Why a rule is rejected. -/
inductive Rejection where
  | malformed
  | tooLarge
deriving DecidableEq, Repr

/-- How large a built rule may be, and how much it may remember while it searches, in bytes. -/
structure RuleLimits where
  size : UInt64
  cache : UInt64
deriving DecidableEq, Repr

/-- Builds rules, and searches texts for them. -/
structure RuleEngine where
  /-- Rules that have been built. -/
  Compiled : Type
  /-- Builds a rule within limits. -/
  build : (rule : String) → (limits : RuleLimits) → Except Rejection Compiled
  /-- The first occurrence of a rule in a text, as a range of byte offsets. -/
  find : Compiled → String → Option (UInt64 × UInt64)
  /-- An occurrence begins and ends between characters of the text. -/
  find_isRange {program : Compiled} {source : String} {start stop : UInt64} :
    find program source = some (start, stop) → Text.IsRange source start.toNat stop.toNat

namespace RuleEngine

/-- Builds a rule of the dialect; its estimated size must not exceed the limit. -/
def compile (rule : String) (limits : RuleLimits) : Except Rejection Rule.Program :=
  match Rule.Expr.ofRule? rule with
  | none => .error .malformed
  | some e => if e.cost ≤ limits.size.toNat then .ok e.core.program else .error .tooLarge

/-- The first occurrence of a program, unless it ends beyond what words can count. -/
def search (program : Rule.Program) (source : String) : Option (UInt64 × UInt64) :=
  (program.find source).bind fun r =>
    if r.2 < UInt64.size then some (r.1.toUInt64, r.2.toUInt64) else none

theorem isRange_search {program : Rule.Program} {source : String} {start stop : UInt64}
    (h : search program source = some (start, stop)) :
    Text.IsRange source start.toNat stop.toNat := by
  obtain ⟨r, hf, hw⟩ := Option.bind_eq_some_iff.1 h
  have hr := Rule.Program.isRange_find hf
  by_cases hstop : r.2 < UInt64.size
  · rw [if_pos hstop] at hw
    obtain ⟨rfl, rfl⟩ := Prod.mk.inj (Option.some.inj hw)
    have hstart : r.1 < UInt64.size := Nat.lt_of_le_of_lt hr.le hstop
    rw [Nat.toUInt64_eq, Nat.toUInt64_eq, UInt64.toNat_ofNat_of_lt' hstart,
      UInt64.toNat_ofNat_of_lt' hstop]
    exact hr
  · rw [if_neg hstop] at hw
    cases hw

/-- The engine of the rule dialect. -/
def standard : RuleEngine := ⟨Rule.Program, compile, search, isRange_search⟩

end RuleEngine

end CodeIdioms
