import CodeIdioms.Scan.Analysis
import CodeIdioms.Scan.Selection

/-! # Reports

A scan reports the findings of every file it could read, a fault for every other, the counters of
both, and in how many files each idiom was found. -/

namespace CodeIdioms

/-- The findings of a file. -/
structure FileReport where
  path : String
  findings : List Finding

/-- What a scan found. -/
structure Report where
  files : List FileReport
  errors : List (String × ScanFault)
  counters : Counters

namespace Report

/-- The report of an outcome, if the file was read. -/
def fileOf? (o : FileOutcome) : Option FileReport :=
  match o.result with
  | .ok fs => some ⟨o.path, fs⟩
  | .error _ => none

/-- The fault of an outcome, if the file was not read. -/
def errorOf? (o : FileOutcome) : Option (String × ScanFault) :=
  match o.result with
  | .ok _ => none
  | .error f => some (o.path, f)

/-- The report of some outcomes. -/
def ofOutcomes (os : List FileOutcome) : Report :=
  { files := os.filterMap fileOf?, errors := os.filterMap errorOf?
    counters := Counters.ofOutcomes os }

/-- All findings, file by file. -/
def findings (r : Report) : List Finding := r.files.flatMap (·.findings)

/-- The files with findings. -/
def hits (r : Report) : List FileReport := r.files.filter fun f => !f.findings.isEmpty

/-- For every idiom that was found, the number of files in which it was. -/
def idiomCounts (r : Report) : SortedMap Nat :=
  r.findings.foldl (fun m f => m.update f.idiom.id fun n => n.getD 0 + 1) SortedMap.empty

end Report

/-- What scans ask of the file system: a walk through a root, and files. -/
structure Storage extends FileAccess where
  walk : (root : String) → (followLinks : Bool) → Except RootFault (List Entry)

/-- The paths of the files of a scan. -/
def Storage.select (s : Storage) (root : String) (selection : Selection) (followLinks : Bool) :
    Except ScanFault (List String) :=
  match s.walk root followLinks with
  | .error f => .error (.badRoot root f)
  | .ok es => selection.paths root es

/-- Scans the directory of a root. -/
def Detector.scan {E : RuleEngine} (d : Detector E) (s : Storage) (settings : ScanSettings)
    (root : String) : Except ScanFault Report := do
  let paths ← s.select root (Selection.ofSettings settings) settings.followLinks
  return Report.ofOutcomes (d.analyseAll s.toFileAccess settings.maxFileBytes paths)

end CodeIdioms
