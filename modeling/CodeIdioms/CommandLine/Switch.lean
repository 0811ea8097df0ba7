/-! # Switches

A command line is a list of words.  Some of them are switches: a long one begins with two hyphens,
short ones are letters after a single hyphen and may stand together.  A switch may take a value,
which is attached to it or is the next word; a word that looks like a switch is no value.  After
two hyphens alone no word is a switch.

A grammar says what each switch does to the options read so far.  Words are read from left to
right, and reading stops at the first that is refused. -/

namespace CodeIdioms.CommandLine

/-- What a switch does; options that refuse it, for instance because it is repeated, become
nothing. -/
inductive Action (σ : Type) where
  | flag (set : σ → Option σ)
  | value (set : String → σ → Option σ)
  | version
  | help

/-- A switch: its long name, its letter, and what it does. -/
structure Switch (σ : Type) where
  long : String
  short : Option Char := none
  action : Action σ

/-- The switches of a command, and what it does with other words.  Reading stops at a word that
names a subcommand. -/
structure Grammar (σ : Type) where
  switches : List (Switch σ)
  word : String → σ → Option σ
  isSubcommand : String → Bool := fun _ => false

/-- What a command line says. -/
inductive Reading (σ : Type) where
  | complete (options : σ)
  | subcommand (options : σ) (name : String) (rest : List String)
  | version
  | help
  | refused

/-- What letters after a hyphen say: they are used up, or the last of them wants a value. -/
inductive Letters (σ : Type) where
  | complete (options : σ)
  | wantsValue (set : String → σ → Option σ) (options : σ)
  | version
  | help
  | refused

/-- Whether a word looks like a switch. -/
def looksLikeSwitch (word : String) : Bool := word.startsWith "-" && word != "-"

namespace Grammar

variable {σ : Type} (g : Grammar σ)

/-- The action of a letter. -/
def ofLetter? (c : Char) : Option (Action σ) :=
  (g.switches.find? (·.short == some c)).map (·.action)

/-- The action of a long name. -/
def ofLong? (name : String) : Option (Action σ) :=
  (g.switches.find? (·.long == name)).map (·.action)

/-- Reads letters; what follows a letter that takes a value is the value, without an equals sign
before it. -/
def readLetters : List Char → σ → Letters σ
  | [], s => .complete s
  | c :: cs, s =>
    match g.ofLetter? c with
    | none => .refused
    | some .version => .version
    | some .help => .help
    | some (.flag set) =>
      match set s with
      | some s => readLetters cs s
      | none => .refused
    | some (.value set) =>
      match cs with
      | [] => .wantsValue set s
      | '=' :: cs => (set (String.ofList cs) s).elim .refused .complete
      | cs => (set (String.ofList cs) s).elim .refused .complete

/-- Reads a long switch without its hyphens; a value is attached after the first equals sign. -/
def readLong (cs : List Char) (s : σ) : Letters σ :=
  let attached := match cs.dropWhile (· != '=') with
    | [] => none
    | _ :: value => some (String.ofList value)
  match g.ofLong? (String.ofList (cs.takeWhile (· != '='))), attached with
  | none, _ => .refused
  | some (.value set), some value => (set value s).elim .refused .complete
  | some (.value set), none => .wantsValue set s
  | some _, some _ => .refused
  | some .version, none => .version
  | some .help, none => .help
  | some (.flag set), none => (set s).elim .refused .complete

/-- Reads words none of which is a switch. -/
def readPlain : List String → σ → Reading σ
  | [], s => .complete s
  | w :: ws, s =>
    match g.word w s with
    | some s => readPlain ws s
    | none => .refused

/-- Reads words. -/
def read : List String → σ → Reading σ
  | [], s => .complete s
  | w :: ws, s =>
    if g.isSubcommand w then .subcommand s w ws
    else if w = "--" then g.readPlain ws s
    else if !looksLikeSwitch w then
      match g.word w s with
      | some s => read ws s
      | none => .refused
    else
      let letters := match w.toList with
        | '-' :: '-' :: cs => g.readLong cs s
        | '-' :: cs => g.readLetters cs s
        | _ => .refused
      match letters with
      | .complete s => read ws s
      | .version => .version
      | .help => .help
      | .refused => .refused
      | .wantsValue set s =>
        match ws with
        | [] => .refused
        | v :: ws =>
          if looksLikeSwitch v then .refused
          else match set v s with
            | some s => read ws s
            | none => .refused

end Grammar

end CodeIdioms.CommandLine
