import CodeIdioms.CommandLine.Engine

/-! # The command that detects idioms in one text

Findings are printed as text or as a document.  Explanations draw from one stream, finding after
finding. -/

namespace CodeIdioms.CommandLine

open Document

/-- The text to look at: a file, or standard input for a hyphen or no path. -/
def readSource (env : Surroundings) (path : Option String) : Except Failure String :=
  match path with
  | none | some "-" =>
    env.input.mapError fun f => ⟨"Failed to read standard input", [f.message]⟩
  | some path => (env.text path).mapError fun f => ⟨"Failed to read " ++ path, [f.message]⟩

/-- The lines of a finding, as a reader counts them. -/
def linesText (s : Span) : String :=
  if s.startLine = s.endLine then "line " ++ toString s.startLine.toNat
  else "lines " ++ toString s.startLine.toNat ++ "-" ++ toString s.endLine.toNat

/-- The lines that show a finding. -/
def findingLines (f : Finding) : List String := [
  f.idiom.name ++ " [" ++ f.idiom.id ++ "] confidence " ++ Decimal.fixed 2 f.confidence ++ ", "
    ++ linesText f.span,
  "  " ++ f.text]

/-- The text that explains a finding: a greeting, the narrative and a suggestion. -/
def explanationText (g : Engine) (s : Stream) (f : Finding) : Drawing String := do
  let greeting ← Explainer.success f.idiom.name s
  let narrative ← g.explainer.explain f.idiom g.mode s
  let suggestion := match f.suggestion with
    | some code => "\nSuggested rewrite:\n" ++ code ++ "\n"
    | none => ""
  return "\n" ++ greeting ++ "\n\n" ++ g.render narrative ++ suggestion

/-- The text of a finding with everything that is asked for. -/
def findingText (g : Engine) (o : DetectOptions) (s : Stream) (f : Finding) : Drawing String := do
  let lines := "" :: findingLines f
    ++ (if o.glyphs then [Registry.annotate f.text f.idiom.glyphs] else [])
  let explanation ← if o.explain then explanationText g s f else pure ""
  return String.join (lines.map (· ++ "\n")) ++ explanation

/-- The text of all findings. -/
def findingsText (g : Engine) (o : DetectOptions) (s : Stream) (fs : List Finding) : String :=
  match fs with
  | [] => "No patterns detected.\n"
  | fs =>
    let texts := ((fs.mapM (findingText g o s)).run 0).1
    "Detected " ++ toString fs.length ++ " pattern(s):\n" ++ String.join texts

/-- The document of a finding, with a narrative if there is one. -/
def findingValue (f : Finding) (narrative : Option Narrative) : Value :=
  match Record.codec.write f.record, narrative with
  | .object members, some n => .object (members ++ [("narrative", Narrative.codec.write n)])
  | v, _ => v

/-- The document of a finding, with a drawn narrative if one is asked for. -/
def drawFindingValue (g : Engine) (o : DetectOptions) (s : Stream) (f : Finding) : Drawing Value := do
  if o.explain then return findingValue f (some (← g.explainer.explain f.idiom g.mode s))
  else return findingValue f none

/-- The document of all findings. -/
def findingsValue (g : Engine) (o : DetectOptions) (s : Stream) (fs : List Finding) : Value :=
  .array ((fs.mapM (drawFindingValue g o s)).run 0).1

/-- Detects idioms in one text. -/
def runDetect (env : Surroundings) (g : Engine) (o : DetectOptions) : Session Unit := do
  let source ← Session.ofExcept (readSource env o.input) id
  let findings := g.detector.detect source
  let stream := streamOf env o.narrative.seed
  if o.json then Session.write ((findingsValue g o stream findings).pretty ++ "\n")
  else Session.write (findingsText g o stream findings)

end CodeIdioms.CommandLine
