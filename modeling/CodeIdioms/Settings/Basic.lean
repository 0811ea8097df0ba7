import CodeIdioms.Document.Record
import CodeIdioms.Text.Blank

/-! # Settings

The options of detection, explanation and scanning, their defaults, and the conditions that a
settings document cannot express by its shape alone.  A document gives any part of the options;
the others keep their defaults. -/

namespace CodeIdioms

/-- Options of detection. -/
structure DetectSettings where
  /-- Idioms below this confidence are not reported. -/
  minConfidence : Float := 0.0
  /-- The greatest size in bytes of a compiled rule. -/
  ruleSizeLimit : UInt64 := 1048576
  /-- The greatest size in bytes of what a rule may remember while it searches. -/
  ruleCacheLimit : UInt64 := 2097152
deriving Repr

/-- Options of explanation. -/
structure NarrativeSettings where
  /-- The language that explanations point towards. -/
  targetLanguage : String := "Rust"
  /-- The selector of the layout. -/
  layout : String := "markdown"
  /-- Whether explanations are drawn from templates. -/
  variety : Bool := false
deriving DecidableEq, Repr

/-- The file extensions that are scanned by default. -/
def defaultExtensions : List String := ["js", "jsx", "mjs", "cjs", "ts", "tsx"]

/-- Options of scanning. -/
structure ScanSettings where
  /-- The extensions of files to scan, without their dot. -/
  extensions : List String := defaultExtensions
  /-- Names of directories to skip besides the built-in ones. -/
  skipDirs : List String := []
  /-- Files with more bytes are skipped. -/
  maxFileBytes : UInt64 := 1048576
  /-- The number of parallel jobs; nothing stands for one on every processor. -/
  maxJobs : Option UInt64 := none
  /-- Whether symbolic links are followed. -/
  followLinks : Bool := false
deriving DecidableEq, Repr

/-- All options. -/
structure Settings where
  detect : DetectSettings := {}
  narrative : NarrativeSettings := {}
  scan : ScanSettings := {}
deriving Repr

/-! ### Codecs -/

open Document

/-- The codec of the options of detection. -/
def DetectSettings.codec : Codec DetectSettings :=
  let d : DetectSettings := {}
  Codec.record "struct DetectConfig"
    (.cons (defaulting "min_confidence" Codec.float d.minConfidence) <|
     .cons (defaulting "rule_size_limit" (Codec.word "usize") d.ruleSizeLimit) <|
     .cons (defaulting "rule_dfa_size_limit" (Codec.word "usize") d.ruleCacheLimit) .nil)
    (fun (a, b, c, _) => ⟨a, b, c⟩)
    fun s => (s.minConfidence, s.ruleSizeLimit, s.ruleCacheLimit, ())

/-- The codec of the options of explanation. -/
def NarrativeSettings.codec : Codec NarrativeSettings :=
  let d : NarrativeSettings := {}
  Codec.record "struct NarrativeConfig"
    (.cons (defaulting "target_language" Codec.string d.targetLanguage) <|
     .cons (defaulting "default_format" Codec.string d.layout) <|
     .cons (defaulting "variety_mode" Codec.bool d.variety) .nil)
    (fun (a, b, c, _) => ⟨a, b, c⟩)
    fun s => (s.targetLanguage, s.layout, s.variety, ())

/-- The codec of the options of scanning. -/
def ScanSettings.codec : Codec ScanSettings :=
  let d : ScanSettings := {}
  let strings := Codec.list Codec.string
  Codec.record "struct ScanConfig"
    (.cons (defaulting "file_extensions" strings d.extensions) <|
     .cons (defaulting "skip_dirs" strings d.skipDirs) <|
     .cons (defaulting "max_file_bytes" (Codec.word "u64") d.maxFileBytes) <|
     .cons (defaulting "max_parallel_jobs" (Codec.option (Codec.word "usize")) d.maxJobs) <|
     .cons (defaulting "follow_links" Codec.bool d.followLinks) .nil)
    (fun (a, b, c, d, e, _) => ⟨a, b, c, d, e⟩)
    fun s => (s.extensions, s.skipDirs, s.maxFileBytes, s.maxJobs, s.followLinks, ())

/-- The codec of settings. -/
def Settings.codec : Codec Settings :=
  Codec.record "struct Config"
    (.cons (defaulting "detect" DetectSettings.codec {}) <|
     .cons (defaulting "narrative" NarrativeSettings.codec {}) <|
     .cons (defaulting "scan" ScanSettings.codec {}) .nil)
    (fun (a, b, c, _) => ⟨a, b, c⟩)
    fun s => (s.detect, s.narrative, s.scan, ())

/-! ### Conditions -/

/-- An option whose value is refused. -/
inductive InvalidOption where
  | minConfidence (given : Float)
  | ruleSizeLimit
  | targetLanguage
  | maxFileBytes
  | maxJobs
  | extensions
deriving Repr

namespace InvalidOption

/-- The written name of an option. -/
def option : InvalidOption → String
  | minConfidence _ => "detect.min_confidence"
  | ruleSizeLimit => "detect.rule_size_limit"
  | targetLanguage => "narrative.target_language"
  | maxFileBytes => "scan.max_file_bytes"
  | maxJobs => "scan.max_parallel_jobs"
  | extensions => "scan.file_extensions"

/-- Why the value is refused. -/
def reason : InvalidOption → String
  | minConfidence x => "must be within [0, 1], got " ++ Decimal.plain x
  | ruleSizeLimit => "must be positive"
  | targetLanguage => "must not be empty"
  | maxFileBytes => "must be positive"
  | maxJobs => "must be at least 1 when set"
  | extensions => "must list at least one extension"

/-- The text of a refusal. -/
def message (o : InvalidOption) : String :=
  "invalid configuration option '" ++ o.option ++ "': " ++ o.reason

end InvalidOption

/-- The first option whose value is refused. -/
def Settings.invalidOption? (s : Settings) : Option InvalidOption :=
  if !(0.0 ≤ s.detect.minConfidence && s.detect.minConfidence ≤ 1.0) then
    some (.minConfidence s.detect.minConfidence)
  else if s.detect.ruleSizeLimit = 0 then some .ruleSizeLimit
  else if Text.isBlankText s.narrative.targetLanguage then some .targetLanguage
  else if s.scan.maxFileBytes = 0 then some .maxFileBytes
  else if s.scan.maxJobs = some 0 then some .maxJobs
  else if s.scan.extensions.isEmpty then some .extensions
  else none

end CodeIdioms
