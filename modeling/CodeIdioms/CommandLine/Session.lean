import CodeIdioms.Scan.Report
import CodeIdioms.Explain.Draw

/-! # Sessions

A session is the run of one command.  It asks its surroundings for files, standard input and
randomness, writes to standard output and, beside that, notes to standard error; and it may fail.
Standard output takes everything, but standard error may refuse a note, and then the session fails.
What has been written before a failure stays written. -/

namespace CodeIdioms.CommandLine

/-- What a command can ask for. -/
structure Surroundings extends Storage where
  /-- The whole of standard input. -/
  input : Except FileFault String
  /-- The path of a settings file for command lines that name none. -/
  settings : Option String := none
  /-- Starts a number of jobs, or tells why that cannot be done. -/
  startJobs : UInt64 → Except String Unit := fun _ => .ok ()
  /-- Takes a line on standard error after those that it has taken, or tells why that cannot be
  done. -/
  takeNote : List String → String → Except FileFault Unit := fun _ _ => .ok ()
  /-- The numbers to draw from when no seed is given. -/
  random : Stream := fun _ => 0.0

/-- What has been written so far; a line that standard error has refused is none of the notes. -/
structure Transcript where
  output : String := ""
  notes : List String := []
deriving DecidableEq, Repr

/-- A failure: its message, and the messages of what it goes back to. -/
structure Failure where
  message : String
  causes : List String := []
deriving DecidableEq, Repr

namespace Failure

/-- All messages, the outermost first. -/
def chain (f : Failure) : List String := f.message :: f.causes

/-- A failure within something that is described by a message. -/
def within (f : Failure) (message : String) : Failure := ⟨message, f.chain⟩

end Failure

/-- Actions of a session. -/
abbrev Session := ExceptT Failure (StateM Transcript)

namespace Session

/-- Writes a text to standard output. -/
def write (text : String) : Session Unit :=
  modify fun t => { t with output := t.output ++ text }

/-- Writes lines to standard output. -/
def writeLines (lines : List String) : Session Unit := write (String.join (lines.map (· ++ "\n")))

/-- The value of a result, or its failure. -/
def ofExcept {ε α : Type} (r : Except ε α) (failure : ε → Failure) : Session α :=
  match r with
  | .ok x => pure x
  | .error e => throw (failure e)

/-- Writes a line to standard error. -/
def note (env : Surroundings) (line : String) : Session Unit := do
  let t ← get
  ofExcept (env.takeNote t.notes line) fun f => { message := f.message }
  set { t with notes := t.notes ++ [line] }

/-- The result of a session that begins with nothing written, and what it has written. -/
def result {α : Type} (s : Session α) : Except Failure α × Transcript := s.run.run {}

end Session

end CodeIdioms.CommandLine
