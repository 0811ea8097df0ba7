import CodeIdioms.Detection.RuleSet
import CodeIdioms.Detection.Finding
import CodeIdioms.Decimal.Binary

/-! # The detector

A detector runs every rule of a catalog over a text and reports the first occurrence of each idiom
that is trusted enough.  Findings come in descending order of confidence; sorting is stable, so
equally trusted idioms keep their catalog order. -/

namespace CodeIdioms

/-- A catalog with its rules built, and a threshold of confidence. -/
structure Detector (E : RuleEngine) where
  catalog : Catalog
  ruleSet : RuleSet E
  minConfidence : Float

namespace Detector

variable {E : RuleEngine}

/-- The detector of a catalog. -/
def new (E : RuleEngine) (c : Catalog) (s : DetectSettings) : Detector E :=
  { catalog := c, ruleSet := RuleSet.compile E c s, minConfidence := s.minConfidence }

/-- The finding of one rule: its idiom must not be below the threshold, and must occur. -/
def findRule (d : Detector E) (source : String) (r : CompiledRule E) : Option Finding := do
  let p ← d.catalog.idioms[r.index]?
  if p.confidence < d.minConfidence then none
  let (start, stop) ← E.find r.program source
  Finding.at? p source start stop

/-- The order of findings: greater confidence first. -/
def ranked (a b : Finding) : Bool := Decimal.totalLe b.confidence a.confidence

/-- The findings in a text, most trusted first. -/
def detect (d : Detector E) (source : String) : List Finding :=
  (d.ruleSet.rules.filterMap (d.findRule source)).mergeSort ranked

/-- The rejected rules, in catalog order. -/
def rejected (d : Detector E) : List RejectedRule := d.ruleSet.rejected

/-- The number of rules that were built. -/
def ruleCount (d : Detector E) : Nat := d.ruleSet.rules.length

end Detector

end CodeIdioms
