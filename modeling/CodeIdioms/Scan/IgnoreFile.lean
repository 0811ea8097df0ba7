import CodeIdioms.Scan.Glob
import CodeIdioms.FileTree.Path
import CodeIdioms.Text.Blank

/-! # Ignore files

An ignore file lists rules, one a line.  A rule is a glob for paths below the directory of the
file; an exclamation mark before it turns it into an exception, and a slash after it restricts it
to directories.  A glob without a slash before its end counts at any depth.  The last rule that
matches a path decides. -/

namespace CodeIdioms

/-- What ignore files say of a path. -/
inductive Verdict where
  | undecided
  | ignored
  | kept
deriving DecidableEq, Repr

/-- The first of two verdicts that decides. -/
def Verdict.orElse (a b : Verdict) : Verdict :=
  match a with
  | undecided => b
  | _ => a

/-- A rule of an ignore file. -/
structure IgnoreRule where
  glob : Glob
  exception : Bool
  directoriesOnly : Bool
deriving Repr

/-- What a line of an ignore file holds. -/
inductive IgnoreLine where
  | blank
  | rule (r : IgnoreRule)
  | malformed

namespace IgnoreLine

/-- The line without blanks at its end, unless the last of them is escaped. -/
def trimmed (line : List Char) : List Char :=
  if ['\\', ' '].isSuffixOf line then line else (line.reverse.dropWhile Text.isBlank).reverse

/-- Takes the marks before a glob: the rest, whether it is an exception, and whether it is bound
to the directory of the file. -/
def withoutMarks (line : List Char) : List Char × Bool × Bool :=
  match line with
  | '\\' :: '!' :: cs => ('!' :: cs, false, false)
  | '\\' :: '#' :: cs => ('#' :: cs, false, false)
  | '!' :: '/' :: cs => (cs, true, true)
  | '!' :: cs => (cs, true, false)
  | '/' :: cs => (cs, false, true)
  | cs => (cs, false, false)

/-- Takes the slash after a glob: the rest, and whether there was one. -/
def withoutSlash (cs : List Char) : List Char × Bool :=
  match cs.reverse with
  | '/' :: '\\' :: rest => (rest.reverse, true)
  | '/' :: rest => (rest.reverse, true)
  | _ => (cs, false)

/-- The glob for paths below the directory of the file. -/
def globText (cs : List Char) (bound : Bool) : List Char :=
  let anywhere := !bound && !cs.contains '/' && cs != ['*', '*']
  let cs := if anywhere then '*' :: '*' :: '/' :: cs else cs
  if ['/', '*', '*'].isSuffixOf cs then cs ++ ['/', '*'] else cs

/-- Reads a line. -/
def ofChars (line : List Char) : IgnoreLine :=
  if line.head? = some '#' then blank
  else
    let line := trimmed line
    if line.isEmpty then blank
    else
      let (cs, exception, bound) := withoutMarks line
      let (cs, directoriesOnly) := withoutSlash cs
      match Glob.ofText? (String.ofList (globText cs bound)) with
      | some glob => rule { glob, exception, directoriesOnly }
      | none => malformed

end IgnoreLine

/-- The rules of an ignore file, and whether one of its lines is malformed. -/
structure IgnoreFile where
  rules : List IgnoreRule := []
  malformed : Bool := false

namespace IgnoreFile

/-- The bytes of the lines: line breaks are taken away, and a carriage return before them. -/
def lines (bytes : List UInt8) : List (List UInt8) :=
  let parts := Path.splitAt 10 bytes
  let ended := parts.dropLast.map fun l => if l.getLast? = some 13 then l.dropLast else l
  match parts.getLast? with
  | some last => if last.isEmpty then ended else ended ++ [last]
  | none => ended

/-- The texts of lines, up to the first that is no text. -/
def texts (lines : List (List UInt8)) : List (List Char) :=
  match lines with
  | [] => []
  | l :: ls =>
    match Text.ofBytes? l with
    | some s => s.toList :: texts ls
    | none => []

/-- Lines without the byte order marks that may begin the first of them. -/
def withoutMark (lines : List (List Char)) : List (List Char) :=
  match lines with
  | [] => []
  | l :: ls => l.dropWhile (· == '\ufeff') :: ls

/-- The file with one line more at its end. -/
def add (f : IgnoreFile) (line : List Char) : IgnoreFile :=
  match IgnoreLine.ofChars line with
  | .blank => f
  | .rule r => { f with rules := f.rules ++ [r] }
  | .malformed => { f with malformed := true }

/-- Reads an ignore file. -/
def ofBytes (bytes : List UInt8) : IgnoreFile :=
  (withoutMark (texts (lines bytes))).foldl add {}

/-- What the file says of a path below its directory. -/
def verdict (f : IgnoreFile) (path : List UInt8) (directory : Bool) : Verdict :=
  match f.rules.reverse.find? fun r => (directory || !r.directoriesOnly) && r.glob.accepts path with
  | some r => if r.exception then .kept else .ignored
  | none => .undecided

end IgnoreFile

end CodeIdioms
