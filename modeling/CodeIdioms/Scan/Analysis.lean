import CodeIdioms.Scan.Fault
import CodeIdioms.Scan.Counters
import CodeIdioms.Detection.Detector

/-! # Analysing files

A file is analysed unless it is too large or cannot be read; its size is looked at first. -/

namespace CodeIdioms

/-- What the file system answers about paths. -/
structure FileAccess where
  size : String → Except FileFault UInt64
  text : String → Except FileFault String

/-- What became of a file. -/
structure FileOutcome where
  path : String
  result : Except ScanFault (List Finding)

/-- What an outcome adds to the counters. -/
def FileOutcome.event (o : FileOutcome) : FileEvent :=
  match o.result with
  | .ok fs => .read fs.length
  | .error (.tooLarge _ _ _) => .skipped
  | .error _ => .failed

namespace Detector

variable {E : RuleEngine}

/-- The findings in the file of a path. -/
def analyse (d : Detector E) (a : FileAccess) (limit : UInt64) (path : String) :
    Except ScanFault (List Finding) :=
  match a.size path with
  | .error f => .error (.unreadable path f)
  | .ok size =>
    if size > limit then .error (.tooLarge path size limit)
    else match a.text path with
      | .error f => .error (.unreadable path f)
      | .ok source => .ok (d.detect source)

/-- What becomes of the files of some paths, in the order of the paths. -/
def analyseAll (d : Detector E) (a : FileAccess) (limit : UInt64) (paths : List String) :
    List FileOutcome :=
  paths.map fun path => ⟨path, d.analyse a limit path⟩

end Detector

/-- The counters of outcomes. -/
def Counters.ofOutcomes (os : List FileOutcome) : Counters :=
  (os.map FileOutcome.event).foldl Counters.record Counters.zero

end CodeIdioms
