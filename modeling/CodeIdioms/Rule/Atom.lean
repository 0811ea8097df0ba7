import CodeIdioms.Rule.Expr
import CodeIdioms.Rule.Property

/-! # Atoms of the rule dialect

The smallest parts of a rule's text: flags, escapes and numbers.  Readers take the characters that
are left and give back what they read together with the rest; `none` means that the text is not a
rule.  Under the `x` flag blanks and `#` comments between the parts are skipped. -/

namespace CodeIdioms.Rule

open CodeIdioms.Text

/-- The flags that govern how the parts of a rule are read. -/
structure Flags where
  ignoreCase : Bool := false
  multiLine : Bool := false
  dotAll : Bool := false
  swapGreed : Bool := false
  unicode : Bool := true
  crlf : Bool := false
  spaced : Bool := false
deriving DecidableEq, Repr

/-- A reader of a part of a rule. -/
abbrev Reader (α : Type) := List Char → Option (α × List Char)

/-! ### Blanks and comments -/

/-- Drops blanks, and comments from `#` to the end of the line. -/
def dropSpaced : Bool → List Char → List Char
  | _, [] => []
  | true, c :: cs => dropSpaced (c != '\n') cs
  | false, c :: cs =>
    if isBlank c then dropSpaced false cs
    else if c == '#' then dropSpaced true cs
    else c :: cs

/-- What is left after the blanks that the flags allow. -/
def skip (f : Flags) (cs : List Char) : List Char := if f.spaced then dropSpaced false cs else cs

/-! ### Numbers -/

/-- Takes digits, with skipped blanks between them, while they last. -/
def takeDigits (f : Flags) : Nat → List Char → List Char → List Char × List Char
  | 0, acc, cs => (acc.reverse, cs)
  | fuel + 1, acc, cs =>
    match cs with
    | c :: rest => if c.isDigit then takeDigits f fuel (c :: acc) (skip f rest)
        else (acc.reverse, cs)
    | [] => (acc.reverse, [])

/-- The number written by decimal digits. -/
def decimalNumber (ds : List Char) : Nat := ds.foldl (fun n d => 10 * n + (d.toNat - '0'.toNat)) 0

/-- Reads a decimal number below `2 ^ 32` with blanks around it; `some none` when there are no
digits. -/
def readCount (f : Flags) (cs : List Char) : Option (Option Nat × List Char) :=
  let cs := cs.dropWhile isBlank
  let (ds, rest) := takeDigits f cs.length [] cs
  let rest := rest.dropWhile isBlank
  if ds.isEmpty then some (none, rest)
  else if decimalNumber ds < UInt32.size then some (some (decimalNumber ds), rest)
  else none

/-- Reads exactly `n` hexadecimal digits. -/
def readHexDigits (f : Flags) : Nat → Nat → Reader Nat
  | 0, acc, cs => some (acc, cs)
  | n + 1, acc, c :: cs => (hexDigit? c).bind fun d => readHexDigits f n (16 * acc + d) (skip f cs)
  | _ + 1, _, [] => none

/-- Reads hexadecimal digits up to a closing brace, at least one. -/
def readHexBraced (f : Flags) : Nat → Option Nat → Reader Nat
  | 0, _, _ => none
  | fuel + 1, acc, cs =>
    match cs with
    | '\x7d' :: rest => acc.map fun n => (n, skip f rest)
    | c :: rest => (hexDigit? c).bind fun d =>
        readHexBraced f fuel (some (16 * acc.getD 0 + d)) (skip f rest)
    | [] => none

/-! ### Escapes -/

/-- What a single character or escape stands for. -/
inductive Atom where
  | char (c : Char)
  | set (s : Ranges)
  | look (l : Look)
deriving Repr

/-- The character of a code point. -/
def charOfCode? (n : Nat) : Option Char := if n.isValidChar then some (Char.ofNat n) else none

/-- Reads what follows `\x`, `\u` or `\U`.  Without the `u` flag two digits write a byte, and only
ASCII bytes are characters of their own. -/
def readHex (f : Flags) (digits : Nat) (cs : List Char) : Option (Atom × List Char) :=
  match skip f cs with
  | [] => none
  | '\x7b' :: rest => do
    let (n, rest) ← readHexBraced f (rest.length + 1) none (skip f rest)
    let c ← charOfCode? n
    return (.char c, rest)
  | cs => do
    let (n, rest) ← readHexDigits f digits 0 cs
    let c ← charOfCode? n
    if digits == 2 && !f.unicode && n ≥ 0x80 then none else return (.char c, rest)

/-- A set after the change of case that the flags ask for, negated on demand.  Without the `u` flag
a negated set would match single bytes, which no text has. -/
def finishSet (f : Flags) (negated : Bool) (s : Ranges) : Option Ranges :=
  let s := if f.ignoreCase then foldCase f.unicode s else s
  if !negated then some s else if f.unicode then some s.complement else none

/-- Splits characters at the first place where they continue with `mark`. -/
def splitAtMark (mark : List Char) : List Char → List Char → Option (List Char × List Char)
  | _, [] => none
  | before, c :: cs =>
    if mark.isPrefixOf (c :: cs) then some (before.reverse, (c :: cs).drop mark.length)
    else splitAtMark mark (c :: before) cs

/-- The set of a braced property: `name`, `name=value`, `name:value` or `name!=value`. -/
def bracedSet? (f : Flags) (negated : Bool) (body : List Char) : Option Ranges :=
  match splitAtMark ['!', '='] [] body with
  | some (p, v) => (valuedSet? (String.ofList p) (String.ofList v)).bind (finishSet f (!negated))
  | none =>
    match splitAtMark [':'] [] body <|> splitAtMark ['='] [] body with
    | some (p, v) => (valuedSet? (String.ofList p) (String.ofList v)).bind (finishSet f negated)
    | none => (namedSet? (String.ofList body)).bind (finishSet f negated)

/-- Takes the characters of a property name up to a closing brace. -/
def readPropertyName (f : Flags) : Nat → List Char → Reader (List Char)
  | 0, _, _ => none
  | fuel + 1, acc, cs =>
    match cs with
    | '\x7d' :: rest => some (acc.reverse, rest)
    | c :: rest => readPropertyName f fuel (c :: acc) (skip f rest)
    | [] => none

/-- Reads what follows `\p` or `\P`. -/
def readProperty (f : Flags) (negated : Bool) (cs : List Char) : Option (Atom × List Char) :=
  if !f.unicode then none
  else match skip f cs with
    | [] => none
    | '\x7b' :: rest => do
      let (body, rest) ← readPropertyName f (rest.length + 1) [] (skip f rest)
      let s ← bracedSet? f negated body
      return (.set s, rest)
    | c :: rest => do
      if c == '\\' then none
      let s ← (namedSet? (String.singleton c)).bind (finishSet f negated)
      return (.set s, skip f rest)

/-- Takes letters and hyphens while they last. -/
def takePlaceName (f : Flags) : Nat → List Char → List Char → List Char × List Char
  | 0, acc, cs => (acc.reverse, cs)
  | fuel + 1, acc, cs =>
    match cs with
    | c :: rest => if c.isAlpha || c == '-' then takePlaceName f fuel (c :: acc) (skip f rest)
        else (acc.reverse, cs)
    | [] => (acc.reverse, [])

/-- Reads what follows `\b`: a braced name of a place, or nothing. -/
def readWordPlace (f : Flags) (cs : List Char) : Option (Atom × List Char) :=
  match cs with
  | '\x7b' :: rest =>
    match skip f rest with
    | [] => none
    | c :: body =>
      if !(c.isAlpha || c == '-') then some (.look (.word f.unicode .edge), cs)
      else
        let (name, rest) := takePlaceName f (body.length + 1) [] (c :: body)
        match rest with
        | '\x7d' :: rest =>
          let place? : Option WordPlace := match String.ofList name with
            | "start" => some .start
            | "end" => some .stop
            | "start-half" => some .startHalf
            | "end-half" => some .stopHalf
            | _ => none
          place?.map fun place => (.look (.word f.unicode place), rest)
        | _ => none
  | cs => some (.look (.word f.unicode .edge), cs)

/-- Characters that an escape turns into themselves: ASCII, neither letter nor digit nor angle
bracket. -/
def isEscapable (c : Char) : Bool :=
  c.toNat < 0x80 && !c.isAlphanum && c != '<' && c != '>'

/-- The set of a class letter; a negated one has no meaning on bytes. -/
def letterSet (f : Flags) (negated : Bool) (s : Bool → Ranges) : Option Atom :=
  if !negated then some (.set (s f.unicode))
  else if f.unicode then some (.set (s true).complement)
  else none

/-- Reads an escape, after its backslash. -/
def readEscape (f : Flags) : List Char → Option (Atom × List Char)
  | [] => none
  | c :: cs =>
    match c with
    | 'x' => readHex f 2 cs
    | 'u' => readHex f 4 cs
    | 'U' => readHex f 8 cs
    | 'p' => readProperty f false cs
    | 'P' => readProperty f true cs
    | 'd' => (letterSet f false digitSet).map (·, cs)
    | 'D' => (letterSet f true digitSet).map (·, cs)
    | 's' => (letterSet f false spaceSet).map (·, cs)
    | 'S' => (letterSet f true spaceSet).map (·, cs)
    | 'w' => (letterSet f false wordSet).map (·, cs)
    | 'W' => (letterSet f true wordSet).map (·, cs)
    | 'a' => some (.char '\x07', cs)
    | 'f' => some (.char '\x0c', cs)
    | 't' => some (.char '\t', cs)
    | 'n' => some (.char '\n', cs)
    | 'r' => some (.char '\r', cs)
    | 'v' => some (.char '\x0b', cs)
    | 'A' => some (.look .textStart, cs)
    | 'z' => some (.look .textEnd, cs)
    | 'b' => readWordPlace f cs
    | 'B' => some (.look (.word f.unicode .inside), cs)
    | '<' => some (.look (.word f.unicode .start), cs)
    | '>' => some (.look (.word f.unicode .stop), cs)
    | c => if isEscapable c then some (.char c, cs) else none

/-! ### Flags -/

/-- The kinds of flags, by letter. -/
inductive FlagKind where
  | ignoreCase
  | multiLine
  | dotAll
  | swapGreed
  | unicode
  | crlf
  | spaced
deriving DecidableEq, Repr

/-- The kind of a flag letter. -/
def FlagKind.ofChar? : Char → Option FlagKind
  | 'i' => some ignoreCase
  | 'm' => some multiLine
  | 's' => some dotAll
  | 'U' => some swapGreed
  | 'u' => some unicode
  | 'R' => some crlf
  | 'x' => some spaced
  | _ => none

/-- The flags with one of them set or cleared. -/
def Flags.set (f : Flags) (kind : FlagKind) (on : Bool) : Flags :=
  match kind with
  | .ignoreCase => { f with ignoreCase := on }
  | .multiLine => { f with multiLine := on }
  | .dotAll => { f with dotAll := on }
  | .swapGreed => { f with swapGreed := on }
  | .unicode => { f with unicode := on }
  | .crlf => { f with crlf := on }
  | .spaced => { f with spaced := on }

/-- The flags that a bracket changes, with the mark that ends the list. -/
structure FlagChange where
  changes : List (FlagKind × Bool)
  closed : Bool
deriving Repr

/-- Reads flags up to `:` or `)`.  No flag and no minus sign comes twice, and the minus sign is not
last. -/
def readFlags (seen : List (FlagKind × Bool)) (minus last : Bool) : Reader FlagChange
  | [] => none
  | ':' :: cs => if last then none else some (⟨seen.reverse, false⟩, cs)
  | ')' :: cs => if last || seen.isEmpty then none else some (⟨seen.reverse, true⟩, cs)
  | '-' :: cs => if minus then none else readFlags seen true true cs
  | c :: cs => do
    let kind ← FlagKind.ofChar? c
    if seen.any (·.1 == kind) then none else readFlags ((kind, !minus) :: seen) minus false cs

/-- The flags after a change. -/
def Flags.apply (f : Flags) (change : FlagChange) : Flags :=
  change.changes.foldl (fun f (kind, on) => f.set kind on) f

end CodeIdioms.Rule
