import CodeIdioms.Text.Ranges
import CodeIdioms.Text.Blank
import CodeIdioms.Text.Property.GeneralCategory
import CodeIdioms.Text.Property.Script
import CodeIdioms.Text.Property.ScriptExtensions
import CodeIdioms.Text.Property.Binary
import CodeIdioms.Text.Property.CaseOrbit
import CodeIdioms.Text.Property.Word

/-! # Sets of characters that rules name

A rule names a set by a property (`\p{…}`), by a class letter (`\d`, `\s`, `\w`) or by a bracketed
ASCII name (`[:alpha:]`).  Property names are compared loosely: case, blanks, `_`, `-` and a
leading `is` do not count. -/

namespace CodeIdioms.Rule

open CodeIdioms.Text

/-! ### Property names -/

/-- The name without case, blanks, `_`, `-` and a leading `is`. -/
def looseName (name : String) : String :=
  let cs := name.toList
  let (hadIs, body) := match cs with
    | a :: b :: rest => if (a == 'i' || a == 'I') && (b == 's' || b == 'S') then (true, rest)
        else (false, cs)
    | _ => (false, cs)
  let kept := (body.filter fun c => c != ' ' && c != '_' && c != '-' && c.toNat < 0x80).map (·.toLower)
  if hadIs && kept == ['c'] then "isc" else String.ofList kept

/-- The general categories that are unions of others, by the first letters of their members. -/
def categoryGroups : List (List String × List String) := [
  (["c", "other"], ["cc", "cf", "cn", "co"]),
  (["l", "letter"], ["lu", "ll", "lt", "lm", "lo"]),
  (["lc", "casedletter"], ["lu", "ll", "lt"]),
  (["m", "mark", "combiningmark"], ["mn", "mc", "me"]),
  (["n", "number"], ["nd", "nl", "no"]),
  (["p", "punctuation", "punct"], ["pc", "pd", "ps", "pe", "pi", "pf", "po"]),
  (["s", "symbol"], ["sm", "sc", "sk", "so"]),
  (["z", "separator"], ["zs", "zl", "zp"])]

/-- The set of a general category, or of a group of them. -/
def generalCategory? (name : String) : Option Ranges :=
  if name == "any" then some [(0, maxCode)]
  else if name == "ascii" then some [(0, 0x7f)]
  else if name == "assigned" then (findNamed? generalCategories "cn").map (·.complement)
  else match categoryGroups.find? (·.1.contains name) with
    | some (_, members) =>
      some (Ranges.normalize (members.flatMap fun m => (findNamed? generalCategories m).getD []))
    | none => findNamed? generalCategories name

/-- The set of a property given by one name: a Boolean property, a general category or a script. -/
def namedSet? (name : String) : Option Ranges :=
  let name := looseName name
  let binary := if name == "cf" || name == "sc" || name == "lc" then none
    else findNamed? binaryProperties name
  binary <|> generalCategory? name <|> findNamed? scripts name

/-- The set of a property given by name and value. -/
def valuedSet? (property value : String) : Option Ranges :=
  let value := looseName value
  match looseName property with
  | "gc" | "generalcategory" => generalCategory? value
  | "sc" | "script" => findNamed? scripts value
  | "scx" | "scriptextensions" => findNamed? scriptExtensions value <|> findNamed? scripts value
  | _ => none

/-! ### Class letters and ASCII names -/

/-- The decimal digits. -/
def digitSet (unicode : Bool) : Ranges :=
  if unicode then (findNamed? generalCategories "nd").getD [] else [(0x30, 0x39)]

/-- The blanks. -/
def spaceSet (unicode : Bool) : Ranges :=
  if unicode then blankRanges else [(0x9, 0xd), (0x20, 0x20)]

/-- The word characters. -/
def wordSet (unicode : Bool) : Ranges :=
  if unicode then wordRanges else [(0x30, 0x39), (0x41, 0x5a), (0x5f, 0x5f), (0x61, 0x7a)]

/-- The set of a bracketed ASCII name. -/
def asciiSet? : String → Option Ranges
  | "alnum" => some [(0x30, 0x39), (0x41, 0x5a), (0x61, 0x7a)]
  | "alpha" => some [(0x41, 0x5a), (0x61, 0x7a)]
  | "ascii" => some [(0, 0x7f)]
  | "blank" => some [(0x9, 0x9), (0x20, 0x20)]
  | "cntrl" => some [(0, 0x1f), (0x7f, 0x7f)]
  | "digit" => some [(0x30, 0x39)]
  | "graph" => some [(0x21, 0x7e)]
  | "lower" => some [(0x61, 0x7a)]
  | "print" => some [(0x20, 0x7e)]
  | "punct" => some [(0x21, 0x2f), (0x3a, 0x40), (0x5b, 0x60), (0x7b, 0x7e)]
  | "space" => some [(0x9, 0xd), (0x20, 0x20)]
  | "upper" => some [(0x41, 0x5a)]
  | "word" => some [(0x30, 0x39), (0x41, 0x5a), (0x5f, 0x5f), (0x61, 0x7a)]
  | "xdigit" => some [(0x30, 0x39), (0x41, 0x46), (0x61, 0x66)]
  | _ => none

/-! ### Sets closed under change of case -/

/-- All orbits of more than one character. -/
def caseOrbits : List (List Nat) :=
  largeOrbits ++ orbitRuns.flatMap fun run =>
    (List.range run.count).map fun i => [run.first + i * run.stride, run.first + i * run.stride + run.shift]

/-- The least set that contains `s` and is closed under change of case. -/
def foldCase (unicode : Bool) (s : Ranges) : Ranges :=
  let orbits := if unicode then caseOrbits
    else (List.range 26).map fun i => [0x41 + i, 0x61 + i]
  let extra := orbits.flatMap fun orbit =>
    if orbit.any s.contains then orbit.map fun c => (c, c) else []
  if extra.isEmpty then s else Ranges.normalize (s ++ extra)

end CodeIdioms.Rule
