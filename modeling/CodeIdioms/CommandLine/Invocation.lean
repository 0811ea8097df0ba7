import CodeIdioms.CommandLine.Switch
import CodeIdioms.Decimal.Spelled
import CodeIdioms.Vocabulary.Category
import CodeIdioms.Vocabulary.Difficulty

/-! # Invocations

A command line names one of six commands, with options of its own and options that every command
has.  Every option can be given once; those of all commands can be given before the command as
well as after it, and the one after it counts. -/

namespace CodeIdioms.CommandLine

/-- Options of all commands. -/
structure SharedOptions where
  settings : Option String := none
  verbose : Bool := false
  noColor : Bool := false
deriving DecidableEq, Repr

/-- Options for explanations. -/
structure NarrativeOptions where
  layout : Option String := none
  variety : Bool := false
  seed : Option UInt64 := none
  target : Option String := none
deriving DecidableEq, Repr

/-- Options for the detection in one text. -/
structure DetectOptions where
  input : Option String := none
  json : Bool := false
  explain : Bool := false
  glyphs : Bool := false
  minConfidence : Option Float := none
  narrative : NarrativeOptions := {}
deriving Repr

/-- Options for the scan of a directory. -/
structure ScanOptions where
  directory : Option String := none
  json : Bool := false
  jobs : Option UInt64 := none
  minConfidence : Option Float := none
deriving Repr

/-- Options for the explanation of an idiom. -/
structure ExplainOptions where
  id : Option String := none
  narrative : NarrativeOptions := {}
deriving DecidableEq, Repr

/-- Filters for the list of idioms. -/
structure ListOptions where
  category : Option Category := none
  difficulty : Option Difficulty := none
  tag : Option String := none
deriving DecidableEq, Repr

/-- Options for statistics. -/
structure StatsOptions where
  json : Bool := false
deriving DecidableEq, Repr

/-- The commands. -/
inductive Command where
  | detect (o : DetectOptions)
  | scan (o : ScanOptions)
  | explain (id : String) (o : NarrativeOptions)
  | list (o : ListOptions)
  | stats (o : StatsOptions)
  | legend
deriving Repr

/-- A command, with the path of a settings file. -/
structure Invocation where
  settings : Option String
  command : Command
deriving Repr

/-- What a whole command line asks for. -/
inductive Request where
  | run (i : Invocation)
  | version (program : String)
  | help
  | refused
deriving Repr

/-! ### Switches of options -/

/-- Turns a flag on that is not on yet. -/
def turnOn : Bool → Option Bool
  | false => some true
  | true => none

/-- Gives a value that is not given yet. -/
def give {α : Type} (old new : Option α) : Option (Option α) :=
  match old, new with
  | none, some x => some (some x)
  | _, _ => none

/-- A switch for a part of the options. -/
def Switch.onPart {σ τ : Type} (get : σ → τ) (set : τ → σ → σ) (w : Switch τ) : Switch σ :=
  { long := w.long, short := w.short
    action := match w.action with
      | .flag f => .flag fun s => (f (get s)).map fun t => set t s
      | .value f => .value fun v s => (f v (get s)).map fun t => set t s
      | .version => .version
      | .help => .help }

/-- The switches of all commands. -/
def SharedOptions.switches : List (Switch SharedOptions) := [
  ⟨"config", some 'c', .value fun v s => (give s.settings (some v)).map ({ s with settings := · })⟩,
  ⟨"verbose", some 'v', .flag fun s => (turnOn s.verbose).map ({ s with verbose := · })⟩,
  ⟨"no-color", none, .flag fun s => (turnOn s.noColor).map ({ s with noColor := · })⟩,
  ⟨"version", some 'V', .version⟩,
  ⟨"help", some 'h', .help⟩]

/-- The switches for explanations. -/
def NarrativeOptions.switches : List (Switch NarrativeOptions) := [
  ⟨"format", some 'f', .value fun v s => (give s.layout (some v)).map ({ s with layout := · })⟩,
  ⟨"variety", none, .flag fun s => (turnOn s.variety).map ({ s with variety := · })⟩,
  ⟨"seed", none, .value fun v s =>
    (give s.seed (Decimal.readWord? v)).map ({ s with seed := · })⟩,
  ⟨"target", none, .value fun v s => (give s.target (some v)).map ({ s with target := · })⟩]

/-- The switches of the detection in one text. -/
def DetectOptions.switches : List (Switch DetectOptions) := [
  ⟨"json", none, .flag fun s => (turnOn s.json).map ({ s with json := · })⟩,
  ⟨"explain", some 'e', .flag fun s => (turnOn s.explain).map ({ s with explain := · })⟩,
  ⟨"glyphs", some 'g', .flag fun s => (turnOn s.glyphs).map ({ s with glyphs := · })⟩,
  ⟨"min-confidence", none, .value fun v s =>
    (give s.minConfidence (Decimal.readFloat? v)).map ({ s with minConfidence := · })⟩]
  ++ NarrativeOptions.switches.map
    (Switch.onPart DetectOptions.narrative fun n s => { s with narrative := n })

/-- The switches of the scan of a directory. -/
def ScanOptions.switches : List (Switch ScanOptions) := [
  ⟨"json", none, .flag fun s => (turnOn s.json).map ({ s with json := · })⟩,
  ⟨"jobs", some 'j', .value fun v s =>
    (give s.jobs (Decimal.readWord? v)).map ({ s with jobs := · })⟩,
  ⟨"min-confidence", none, .value fun v s =>
    (give s.minConfidence (Decimal.readFloat? v)).map ({ s with minConfidence := · })⟩]

/-- The switches of the explanation of an idiom. -/
def ExplainOptions.switches : List (Switch ExplainOptions) :=
  NarrativeOptions.switches.map
    (Switch.onPart ExplainOptions.narrative fun n s => { s with narrative := n })

/-- The switches of the list of idioms. -/
def ListOptions.switches : List (Switch ListOptions) := [
  ⟨"category", none, .value fun v s =>
    (give s.category (Vocabulary.ofSpelling? v)).map ({ s with category := · })⟩,
  ⟨"difficulty", none, .value fun v s =>
    (give s.difficulty (Vocabulary.ofPlainSpelling? v)).map ({ s with difficulty := · })⟩,
  ⟨"tag", none, .value fun v s => (give s.tag (some v)).map ({ s with tag := · })⟩]

/-- The switches of statistics. -/
def StatsOptions.switches : List (Switch StatsOptions) := [
  ⟨"json", none, .flag fun s => (turnOn s.json).map ({ s with json := · })⟩]

/-! ### Commands -/

/-- The name of the program. -/
def programName : String := "idiom"

/-- The version of the program. -/
def programVersion : String := "0.1.0"

/-- Refuses a word that is no switch. -/
def noWord {σ : Type} (_ : String) (_ : σ) : Option σ := none

/-- Reads the words after the name of a command, whose own options are of type `σ`; `finish` makes
the command from them. -/
def readOptions {σ : Type} (name : String) (start : σ) (switches : List (Switch σ))
    (word : String → σ → Option σ) (finish : σ → Option Command) (before : SharedOptions)
    (words : List String) : Request :=
  let grammar : Grammar (SharedOptions × σ) :=
    { switches := switches.map (Switch.onPart Prod.snd fun o s => (s.1, o))
        ++ SharedOptions.switches.map (Switch.onPart Prod.fst fun o s => (o, s.2))
      word := fun w s => (word w s.2).map fun o => (s.1, o) }
  match grammar.read words ({}, start) with
  | .complete (shared, options) =>
    match finish options with
    | some command => .run { settings := shared.settings <|> before.settings, command }
    | none => .refused
  | .version => .version (programName ++ "-" ++ name)
  | .help => .help
  | .subcommand _ _ _ | .refused => .refused

/-- The names of the commands. -/
def commandNames : List String := ["detect", "scan", "explain", "list", "stats", "legend"]

/-- Reads the words after the name of a command. -/
def readCommand (name : String) (before : SharedOptions) (words : List String) : Request :=
  match name with
  | "detect" =>
    readOptions name {} DetectOptions.switches
      (fun w s => (give s.input (some w)).map ({ s with input := · })) (some ∘ .detect) before words
  | "scan" =>
    readOptions name {} ScanOptions.switches
      (fun w s => (give s.directory (some w)).map ({ s with directory := · })) (some ∘ .scan)
      before words
  | "explain" =>
    readOptions name {} ExplainOptions.switches
      (fun w s => (give s.id (some w)).map ({ s with id := · }))
      (fun o => o.id.map fun id => .explain id o.narrative) before words
  | "list" => readOptions name {} ListOptions.switches noWord (some ∘ .list) before words
  | "stats" => readOptions name {} StatsOptions.switches noWord (some ∘ .stats) before words
  | "legend" => readOptions name () [] noWord (fun _ => some .legend) before words
  | _ => if words.all (commandNames ++ ["help"]).contains && words.length ≤ 1 then .help else .refused

/-- Reads a command line without the name of the program. -/
def Request.ofWords (words : List String) : Request :=
  let grammar : Grammar SharedOptions :=
    { switches := SharedOptions.switches, word := noWord
      isSubcommand := ("help" :: commandNames).contains }
  match grammar.read words {} with
  | .complete _ | .refused => .refused
  | .version => .version programName
  | .help => .help
  | .subcommand before name rest => readCommand name before rest

end CodeIdioms.CommandLine
