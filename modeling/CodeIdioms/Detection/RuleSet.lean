import CodeIdioms.Detection.Engine
import CodeIdioms.Catalog.Basic
import CodeIdioms.Settings.Basic

/-! # Rule sets

The rules of a catalog, each built once.  A rule that is rejected is recorded and left out; it
keeps no other rule from running. -/

namespace CodeIdioms

/-- A built rule with the position of its idiom in the catalog. -/
structure CompiledRule (E : RuleEngine) where
  index : Nat
  program : E.Compiled

/-- A rejected rule. -/
structure RejectedRule where
  id : String
  rule : String
  reason : Rejection
deriving DecidableEq, Repr

/-- The built and the rejected rules of a catalog, each in catalog order. -/
structure RuleSet (E : RuleEngine) where
  rules : List (CompiledRule E)
  rejected : List RejectedRule

/-- The limits that settings set to rules. -/
def DetectSettings.limits (s : DetectSettings) : RuleLimits :=
  { size := s.ruleSizeLimit, cache := s.ruleCacheLimit }

namespace RuleSet

variable (E : RuleEngine)

/-- Builds the rules of idioms, the first of which has a given position. -/
def compileFrom (limits : RuleLimits) : Nat → List Idiom → RuleSet E
  | _, [] => ⟨[], []⟩
  | i, p :: ps =>
    let tail := compileFrom limits (i + 1) ps
    match E.build p.rule limits with
    | .ok program => { tail with rules := ⟨i, program⟩ :: tail.rules }
    | .error reason => { tail with rejected := ⟨p.id, p.rule, reason⟩ :: tail.rejected }

/-- Builds the rules of a catalog. -/
def compile (c : Catalog) (s : DetectSettings) : RuleSet E :=
  compileFrom E s.limits 0 c.idioms

end RuleSet

end CodeIdioms
