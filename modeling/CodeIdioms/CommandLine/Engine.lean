import CodeIdioms.CommandLine.Invocation
import CodeIdioms.CommandLine.Session
import CodeIdioms.Settings.Loading
import CodeIdioms.Glyph.Builtin
import CodeIdioms.Catalog.Builtin
import CodeIdioms.Explain.Builtin
import CodeIdioms.Explain.Generator
import CodeIdioms.Explain.Seeded
import CodeIdioms.Narrative.Layout

/-! # The engine of the program

The settings of a run are those of the settings file, or the defaults, with the options of the
command laid over them.  They are checked twice: on their own and after that.  With valid
settings the built-in glyphs, idioms and templates are made ready. -/

namespace CodeIdioms.CommandLine

/-! ### Settings of a run -/

/-- The settings with a threshold of confidence, if one is given. -/
def withConfidence (s : Settings) (given : Option Float) : Settings :=
  match given with
  | some x => { s with detect := { s.detect with minConfidence := x } }
  | none => s

/-- The settings with the options for explanations laid over them. -/
def NarrativeOptions.overlay (o : NarrativeOptions) (s : Settings) : Settings :=
  { s with narrative := {
      targetLanguage := o.target.getD s.narrative.targetLanguage
      layout := o.layout.getD s.narrative.layout
      variety := s.narrative.variety || o.variety } }

/-- The settings with the options of a scan laid over them. -/
def ScanOptions.overlay (o : ScanOptions) (s : Settings) : Settings :=
  withConfidence { s with scan := { s.scan with maxJobs := o.jobs <|> s.scan.maxJobs } }
    o.minConfidence

/-- The settings with the options of a command laid over them. -/
def Command.overlay (c : Command) (s : Settings) : Settings :=
  match c with
  | detect o => withConfidence (o.narrative.overlay s) o.minConfidence
  | scan o => o.overlay s
  | explain _ o => o.overlay s
  | list _ | stats _ | legend => s

/-- A failure to use settings. -/
def settingsFailure (e : SettingsError) : Failure := ⟨e.message, e.cause?.toList⟩

/-- The settings of a file, if there is one. -/
def loadSettings (env : Surroundings) (path : Option String) : Except Failure Settings :=
  match path with
  | none => .ok {}
  | some path =>
    (Settings.ofFile path (env.text path)).mapError fun e =>
      (settingsFailure e).within ("Failed to load configuration from " ++ path)

/-- The settings of a run. -/
def Invocation.effective (i : Invocation) (env : Surroundings) : Except Failure Settings := do
  let s ← loadSettings env (i.settings <|> env.settings)
  (i.command.overlay s).checked.mapError fun e =>
    (settingsFailure e).within "Invalid configuration"

/-! ### The engine -/

/-- Everything that commands work with. -/
structure Engine where
  settings : Settings
  glyphs : Registry
  catalog : Catalog
  templates : TemplateStore

namespace Engine

/-- The engine of valid settings. -/
def load (s : Settings) : Except Failure Engine := do
  let glyphs ← Builtin.registry.mapError fun e =>
    ⟨"Failed to load glyph registry", [e.message]⟩
  let catalog ← (Builtin.catalog glyphs).mapError fun e =>
    ⟨"Failed to load pattern catalog", [e.message]⟩
  let templates ← Builtin.templates.mapError fun e =>
    ⟨"Failed to load narrative templates", [e.message]⟩
  return { settings := s, glyphs, catalog,
           templates := templates.withTarget s.narrative.targetLanguage }

/-- The detector of the settings. -/
def detector (g : Engine) : Detector RuleEngine.standard :=
  Detector.new RuleEngine.standard g.catalog g.settings.detect

/-- The explainer of the settings. -/
def explainer (g : Engine) : Explainer := ⟨g.templates, g.settings.narrative.targetLanguage⟩

/-- The mode of explanations. -/
def mode (g : Engine) : Mode := Mode.ofVariety g.settings.narrative.variety

/-- A narrative in the layout of the settings. -/
def render (g : Engine) (n : Narrative) : String :=
  (Layout.ofSelector g.settings.narrative.layout).render n

end Engine

/-- The stream of a seed, or of the surroundings when there is none. -/
def streamOf (env : Surroundings) (seed : Option UInt64) : Stream :=
  match seed with
  | some n => Stream.ofSeed n
  | none => env.random

end CodeIdioms.CommandLine
