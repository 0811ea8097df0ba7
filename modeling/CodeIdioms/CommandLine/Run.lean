import CodeIdioms.CommandLine.Detect
import CodeIdioms.CommandLine.Scan
import CodeIdioms.CommandLine.Explain
import CodeIdioms.CommandLine.Listing

/-! # Running a command line

A command line that asks for a command runs it in its surroundings; one that is refused runs
nothing. -/

namespace CodeIdioms.CommandLine

/-- Runs a command. -/
def Command.run (c : Command) (env : Surroundings) (g : Engine) : Session Unit :=
  match c with
  | detect o => runDetect env g o
  | scan o => runScan env g o
  | explain id o => runExplain env g id o
  | list o => runList g o
  | stats o => runStats g o
  | legend => runLegend g

/-- Runs an invocation: its settings are loaded and checked before its command does anything. -/
def Invocation.run (i : Invocation) (env : Surroundings) : Session Unit := do
  let settings ← Session.ofExcept (i.effective env) id
  let engine ← Session.ofExcept (Engine.load settings) id
  i.command.run env engine

/-- How a run ends: its exit code, what it has written, and the messages of its failure. -/
structure Outcome where
  code : Nat
  transcript : Transcript := {}
  chain : List String := []
deriving DecidableEq, Repr

/-- The code of a run that succeeds. -/
def Outcome.succeeded : Nat := 0

/-- The code of a run that fails. -/
def Outcome.failed : Nat := 1

/-- The code of a command line that is refused. -/
def Outcome.misused : Nat := 2

/-- How the session of an invocation ends. -/
def Invocation.outcome (i : Invocation) (env : Surroundings) : Outcome :=
  match (i.run env).result with
  | (.ok (), t) => { code := Outcome.succeeded, transcript := t }
  | (.error f, t) => { code := Outcome.failed, transcript := t, chain := f.chain }

/-- The text that tells how the program is used. -/
def usage : String := "\n".intercalate [
  "Recognizes source-code idioms and explains them in another language.",
  "",
  "Usage: idiom [OPTIONS] <COMMAND>",
  "",
  "Commands:",
  "  detect   Detect patterns in one file or standard input",
  "  scan     Detect patterns in every source file under a directory",
  "  explain  Explain one catalog pattern by id",
  "  list     List catalog patterns",
  "  stats    Show catalog statistics",
  "  legend   Print the glyph legend as Markdown",
  "  help     Print this message",
  "",
  "Options:",
  "  -c, --config <CONFIG>  Path to a JSON configuration file [env: IDIOM_CONFIG=]",
  "  -v, --verbose          Enable verbose logging",
  "      --no-color         Disable colored output",
  "  -h, --help             Print help",
  "  -V, --version          Print version",
  ""]

/-- How the run of a request ends. -/
def Request.outcome (r : Request) (env : Surroundings) : Outcome :=
  match r with
  | run i => i.outcome env
  | version program =>
    { code := Outcome.succeeded, transcript := { output := program ++ " " ++ programVersion ++ "\n" } }
  | help => { code := Outcome.succeeded, transcript := { output := usage } }
  | refused => { code := Outcome.misused }

/-- How the run of a command line ends. -/
def outcome (env : Surroundings) (words : List String) : Outcome :=
  (Request.ofWords words).outcome env

end CodeIdioms.CommandLine
