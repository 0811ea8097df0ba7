import CodeIdioms.Scan.Fault
import CodeIdioms.Settings.Basic

/-! # The files of a scan

Of what a walk meets, a scan takes the regular files with a wanted extension that have no skipped
name on their way from the root.  The files are ordered by the names on their way. -/

namespace CodeIdioms

/-- The names that are always skipped. -/
def skippedNames : List String := [
  "node_modules", "dist", "build", "out", ".git", "coverage", ".turbo", ".next", ".nuxt", ".cache"]

/-- The extension of a name: what follows its last dot, unless nothing stands before that. -/
def extension? (name : String) : Option String :=
  let cs := name.toList
  let after := cs.reverse.takeWhile (· != '.')
  if after.length + 1 < cs.length then some (String.ofList after.reverse) else none

/-- Which files a scan takes. -/
structure Selection where
  extensions : List String := defaultExtensions
  skipDirs : List String := []
deriving DecidableEq, Repr

namespace Selection

/-- The selection of settings; no extensions means the default ones. -/
def ofSettings (s : ScanSettings) : Selection :=
  { extensions := if s.extensions.isEmpty then defaultExtensions else s.extensions
    skipDirs := s.skipDirs }

/-- Whether a name is skipped. -/
def skips (s : Selection) (name : String) : Bool :=
  skippedNames.contains name || s.skipDirs.contains name

/-- Whether the file at the end of some names is taken. -/
def takes (s : Selection) (names : List String) : Bool :=
  ((names.getLast?).bind extension?).any s.extensions.contains && !names.any s.skips

/-- The names of a location, if all are texts. -/
def namesOf? (l : Location) : Option (List String) := l.mapM FileName.text?

/-- The names that lead to a taken file, for one entry of the walk of a root. -/
def choose (s : Selection) (root : String) (e : Entry) : Except ScanFault (Option (List String)) :=
  match e.kind with
  | .fault f => .error (.badWalk root e.location f)
  | .directory | .link => .ok none
  | .file =>
    match namesOf? e.location with
    | none => .error (.badPath root e.location)
    | some names => .ok (if s.takes names then some names else none)

/-- The names that lead to the taken files, in the order of the walk. -/
def chooseAll (s : Selection) (root : String) : List Entry → Except ScanFault (List (List String))
  | [] => .ok []
  | e :: es => do
    let names? ← s.choose root e
    let rest ← chooseAll s root es
    return names?.toList ++ rest

/-- The names that lead to the taken files, in ascending order. -/
def locations (s : Selection) (root : String) (es : List Entry) :
    Except ScanFault (List (List String)) :=
  (s.chooseAll root es).map fun ls => ls.mergeSort fun a b => !(b < a)

/-- The paths of the taken files. -/
def paths (s : Selection) (root : String) (es : List Entry) : Except ScanFault (List String) :=
  (s.locations root es).map fun ls => ls.map (Path.join root)

end Selection

end CodeIdioms
