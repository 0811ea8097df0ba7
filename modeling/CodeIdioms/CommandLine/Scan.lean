import CodeIdioms.CommandLine.Engine
import CodeIdioms.Text.Columns

/-! # The command that scans a directory

The report is printed as text or as a document.  Files that could not be analysed do not make the
command fail; beside the text they are listed on standard error, which may refuse that. -/

namespace CodeIdioms.CommandLine

open Document Text

/-- A failure of a scan. -/
def scanFailure (f : ScanFault) : Failure := ⟨f.message, f.cause?.toList⟩

/-- The lines of a file with findings. -/
def fileLines (f : FileReport) : List String :=
  f.path :: f.findings.map fun x =>
    "  " ++ padRight 22 x.idiom.id ++ " " ++ Decimal.fixed 2 x.confidence ++ "  line "
      ++ toString x.span.startLine.toNat

/-- The lines of the counters. -/
def counterLines (c : Counters) : List String := [
  "",
  "Scan Summary",
  "============",
  "",
  "Files analyzed:     " ++ toString c.files.toNat,
  "  With matches:     " ++ toString c.filesWithFindings.toNat,
  "  Skipped (size):   " ++ toString c.skipped.toNat,
  "  Errors:           " ++ toString c.errors.toNat,
  "Total matches:      " ++ toString c.findings.toNat,
  "",
  "Hit rate: " ++ Decimal.fixed 1 c.hitRate ++ "%",
  "Matches per file: " ++ Decimal.fixed 2 c.findingsPerFile]

/-- The number of idioms that the summary lists at most. -/
def mostCommonLength : Nat := 10

/-- The idioms found in most files, the most frequent first and equally frequent ones by id. -/
def mostCommon (r : Report) : List (String × Nat) :=
  (r.idiomCounts.entries.mergeSort fun a b => b.2 ≤ a.2).take mostCommonLength

/-- The lines of the idioms found in most files. -/
def mostCommonLines (r : Report) : List String :=
  match mostCommon r with
  | [] => []
  | entries =>
    "" :: "Most common patterns:" :: entries.map fun (id, n) =>
      "  " ++ padRight 22 id ++ " " ++ toString n ++ " file(s)"

/-- The lines of a report. -/
def reportLines (r : Report) : List String :=
  r.hits.flatMap fileLines ++ counterLines r.counters ++ mostCommonLines r

/-- The notes on the files of a report that could not be analysed. -/
def errorLines (r : Report) : List String :=
  match r.errors with
  | [] => []
  | errors =>
    "" :: ("Errors (" ++ toString errors.length ++ "):") :: errors.map fun (path, f) =>
      "  " ++ path ++ " - " ++ f.message

/-- The document of a report. -/
def reportValue (r : Report) : Value := .object [
  ("stats", Counters.codec.write r.counters),
  ("patternCounts", .object (r.idiomCounts.entries.map fun (id, n) => (id, .ofNat n))),
  ("files", .array (r.hits.map fun f => .object [
    ("path", .string f.path),
    ("matches", .array (f.findings.map fun x => Record.codec.write x.record))])),
  ("errors", .array (r.errors.map fun (path, f) => .object [
    ("path", .string path), ("error", .string f.message)]))]

/-- Starts as many jobs as the settings ask for. -/
def startJobs (env : Surroundings) (s : ScanSettings) : Except Failure Unit :=
  match s.maxJobs with
  | none => .ok ()
  | some n => (env.startJobs n).mapError fun why => ⟨"Failed to configure thread pool", [why]⟩

/-- Prints a report: as a document, or as text with notes on the files that failed. -/
def printReport (env : Surroundings) (json : Bool) (r : Report) : Session Unit :=
  if json then Session.write ((reportValue r).pretty ++ "\n")
  else do
    Session.writeLines (reportLines r)
    (errorLines r).forM (Session.note env)

/-- Scans a directory, the working directory if none is given. -/
def runScan (env : Surroundings) (g : Engine) (o : ScanOptions) : Session Unit := do
  Session.ofExcept (startJobs env g.settings.scan) id
  let root := o.directory.getD "."
  let report ← Session.ofExcept (g.detector.scan env.toStorage g.settings.scan root) scanFailure
  printReport env o.json report

end CodeIdioms.CommandLine
