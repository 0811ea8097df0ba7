import CodeIdioms.Document.Record

/-! # Counters of a scan

A scan counts what became of its files.  Counters are 64-bit words that wrap around, and every
event is counted by single additions, so the counts do not depend on how the additions of several
workers interleave. -/

namespace CodeIdioms

/-- What is counted. -/
inductive Counter where
  | files
  | filesWithFindings
  | findings
  | skipped
  | errors
deriving DecidableEq, Repr

/-- The counters, in the order in which they are reset. -/
def Counter.all : List Counter := [.files, .filesWithFindings, .findings, .skipped, .errors]

/-- An addition to one counter. -/
structure Addition where
  counter : Counter
  amount : UInt64
deriving DecidableEq, Repr

/-- What can become of a file: it is read and analysed, skipped for its size, or not readable. -/
inductive FileEvent where
  | read (findings : Nat)
  | skipped
  | failed
deriving DecidableEq, Repr

namespace FileEvent

/-- The event of a file with as many findings as a word tells. -/
def analysed (findings : UInt64) : FileEvent := read findings.toNat

/-- The additions that count an event; a number of findings is added as a word. -/
def additions : FileEvent → List Addition
  | read n =>
    if n = 0 then [⟨.files, 1⟩]
    else [⟨.files, 1⟩, ⟨.filesWithFindings, 1⟩, ⟨.findings, n.toUInt64⟩]
  | skipped => [⟨.skipped, 1⟩]
  | failed => [⟨.errors, 1⟩]

end FileEvent

/-- The values of all counters. -/
structure Counters where
  files : UInt64 := 0
  filesWithFindings : UInt64 := 0
  findings : UInt64 := 0
  skipped : UInt64 := 0
  errors : UInt64 := 0
deriving DecidableEq, Repr, Inhabited

namespace Counters

/-- All counters at zero. -/
def zero : Counters := {}

/-- The value of a counter. -/
def get (c : Counters) : Counter → UInt64
  | .files => c.files
  | .filesWithFindings => c.filesWithFindings
  | .findings => c.findings
  | .skipped => c.skipped
  | .errors => c.errors

/-- The counters after a value was stored in one of them. -/
def put (c : Counters) (k : Counter) (n : UInt64) : Counters :=
  match k with
  | .files => { c with files := n }
  | .filesWithFindings => { c with filesWithFindings := n }
  | .findings => { c with findings := n }
  | .skipped => { c with skipped := n }
  | .errors => { c with errors := n }

/-- The counters after zero was stored in one after the other. -/
def reset (c : Counters) : Counters := Counter.all.foldl (fun c k => c.put k 0) c

/-- The counters after an addition. -/
def add (c : Counters) (a : Addition) : Counters :=
  match a.counter with
  | .files => { c with files := c.files + a.amount }
  | .filesWithFindings => { c with filesWithFindings := c.filesWithFindings + a.amount }
  | .findings => { c with findings := c.findings + a.amount }
  | .skipped => { c with skipped := c.skipped + a.amount }
  | .errors => { c with errors := c.errors + a.amount }

/-- The counters after some additions. -/
def addAll (c : Counters) (as : List Addition) : Counters := as.foldl add c

/-- The counters after an event. -/
def record (c : Counters) (e : FileEvent) : Counters := c.addAll e.additions

/-- The number of files that were tried. -/
def attempted (c : Counters) : UInt64 := c.files + c.skipped + c.errors

/-- The share of analysed files with findings, in percent; zero when there are no files. -/
def hitRate (c : Counters) : Float :=
  if c.files = 0 then 0.0 else c.filesWithFindings.toFloat / c.files.toFloat * 100.0

/-- The number of findings per analysed file; zero when there are no files. -/
def findingsPerFile (c : Counters) : Float :=
  if c.files = 0 then 0.0 else c.findings.toFloat / c.files.toFloat

open Document in
/-- The codec of counters. -/
def codec : Codec Counters :=
  let word := Codec.word "u64"
  Codec.record "struct StatsSnapshot"
    (.cons (required "files" word) <| .cons (required "filesWithMatches" word) <|
     .cons (required "matches" word) <| .cons (required "skipped" word) <|
     .cons (required "errors" word) .nil)
    (fun (a, b, c, d, e, _) => ⟨a, b, c, d, e⟩)
    fun s => (s.files, s.filesWithFindings, s.findings, s.skipped, s.errors, ())

end Counters

end CodeIdioms
