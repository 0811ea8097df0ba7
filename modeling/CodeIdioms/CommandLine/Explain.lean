import CodeIdioms.CommandLine.Engine

/-! # The command that explains an idiom -/

namespace CodeIdioms.CommandLine

/-- The failure to find an idiom. -/
def unknownIdiom (id : String) : Failure :=
  ⟨"Unknown pattern id '" ++ id ++ "'. Run `idiom list` to see the catalog.", []⟩

/-- The text that explains an idiom: a narrative, a hint, and the ids of related idioms. -/
def idiomText (g : Engine) (p : Idiom) (s : Stream) : Drawing String := do
  let narrative ← g.explainer.explain p g.mode s
  let hint ← g.explainer.hint p s
  let related := match g.catalog.related p with
    | [] => ""
    | ps => "Related: " ++ ", ".intercalate (ps.map (·.id)) ++ "\n"
  return g.render narrative ++ "\n" ++ hint ++ "\n" ++ related

/-- Explains an idiom. -/
def runExplain (env : Surroundings) (g : Engine) (id : String) (o : NarrativeOptions) :
    Session Unit := do
  match g.catalog.get? id with
  | none => throw (unknownIdiom id)
  | some p => Session.write ((idiomText g p (streamOf env o.seed)).run 0).1

end CodeIdioms.CommandLine
