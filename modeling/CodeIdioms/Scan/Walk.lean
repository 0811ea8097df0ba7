import CodeIdioms.Scan.Entry
import CodeIdioms.Scan.IgnoreFile
import CodeIdioms.FileTree.Basic

/-! # Walks through a file tree

A walk goes through a directory and everything below it, in the order of names.  It leaves out
hidden entries and what ignore files leave out, together with all that lies below; the ignore
files of the directories above the root count too.  Links are met as links, or followed.

Every directory from the top of the tree inwards has a level: its ignore files, and its depth,
which tells which part of a location lies below it. -/

namespace CodeIdioms

/-- The kinds of ignore files, the most important first. -/
inductive IgnoreKind where
  | plain
  | git
  | exclude
deriving DecidableEq, Repr

namespace IgnoreKind

/-- All kinds. -/
def all : List IgnoreKind := [.plain, .git, .exclude]

/-- Where the file of a kind is found, from its directory. -/
def path : IgnoreKind → String
  | plain => ".ignore"
  | git => ".gitignore"
  | exclude => ".git/info/exclude"

end IgnoreKind

/-- The ignore files of a directory. -/
structure Level where
  depth : Nat
  files : IgnoreKind → IgnoreFile

namespace Level

/-- Reads the ignore file of a kind; one that cannot be read holds nothing. -/
def readFile (t : FileTree) (l : Location) (k : IgnoreKind) : IgnoreFile :=
  match t.open? l (FileName.ofString k.path) >>= FileTree.bytes with
  | .ok contents => IgnoreFile.ofBytes contents.data.toList
  | .error _ => {}

/-- The level of a directory, at a depth. -/
def ofDirectory (t : FileTree) (l : Location) (depth : Nat) : Level :=
  let plain := readFile t l .plain
  let git := readFile t l .git
  let exclude := readFile t l .exclude
  { depth, files := fun
      | .plain => plain
      | .git => git
      | .exclude => exclude }

/-- Whether an ignore file of the level has a malformed line. -/
def isMalformed (v : Level) : Bool := IgnoreKind.all.any fun k => (v.files k).malformed

/-- The levels of the directories above a location, innermost first. -/
def above (t : FileTree) (l : Location) : List Level :=
  (List.range l.length).reverse.map fun n => ofDirectory t (l.take n) n

/-- What levels, innermost first, say of a full location.  The most important kind of ignore file
that decides anything decides, and within a kind the innermost level. -/
def verdict (levels : List Level) (l : Location) (directory : Bool) : Verdict :=
  let verdicts := IgnoreKind.all.flatMap fun k => levels.map fun v =>
    (v.files k).verdict ([FileName.slash].intercalate (l.drop v.depth)) directory
  verdicts.foldr Verdict.orElse .undecided

/-- Whether an entry with a full location is left out. -/
def leavesOut (levels : List Level) (l : Location) (directory : Bool) : Bool :=
  match verdict levels l directory with
  | .ignored => true
  | .kept => false
  | .undecided => (l.getLast?).any FileName.isHidden

end Level

/-- A directory that a walk has entered: its place in the tree, its location below the root, the
directories around it, itself first, by place and location, and the levels that count for its
entries. -/
structure Visit where
  place : Location
  below : Location
  around : List (Location × Location)
  levels : List Level

namespace Visit

/-- What an entry of a directory is, and the place of the directory if it is one. -/
def kindOf (t : FileTree) (followLinks : Bool) (v : Visit) (name : FileName) :
    FileTree → EntryKind × Location
  | .file _ => (.file, [])
  | .directory _ => (.directory, v.place ++ [name])
  | .link _ =>
    if !followLinks then (.link, [])
    else match t.resolve v.place name with
      | .error f => (.fault (.brokenLink f), [])
      | .ok l =>
        if !t.hasDirectory l then (.file, [])
        else match v.around.find? (·.1 == l) with
          | some (_, around) => (.fault (.circularLink around), [])
          | none => (.directory, l)

/-- The visit of a directory that an entry is. -/
def enter (t : FileTree) (v : Visit) (root : Location) (below place : Location) : Visit :=
  { place, below, around := (place, below) :: v.around
    levels := Level.ofDirectory t place (root.length + below.length) :: v.levels }

/-- What a walk meets below a directory, to a bounded depth.  A fault is met whether or not the
entry would be left out. -/
def entries (t : FileTree) (followLinks : Bool) (root : Location) : Nat → Visit → List Entry
  | 0, _ => []
  | depth + 1, v =>
    let children := ((t.at? v.place).getD FileTree.empty).entries
    (children.mergeSort fun a b => a.1 ≤ b.1).flatMap fun (name, child) =>
      let below := v.below ++ [name]
      match kindOf t followLinks v name child with
      | (.fault f, _) => [⟨below, .fault f⟩]
      | (.directory, place) =>
        if Level.leavesOut v.levels (root ++ below) true then []
        else ⟨below, .directory⟩ :: entries t followLinks root depth (v.enter t root below place)
      | (kind, _) =>
        if Level.leavesOut v.levels (root ++ below) false then [] else [⟨below, kind⟩]

end Visit

namespace FileTree

/-- A bound for the depth of walks: links are followed only to directories that are not around
them, and from each of these a walk descends at most through all directories. -/
def maxDepth (t : FileTree) : Nat := (t.directories + 1) * (t.directories + 1)

/-- What a walk through the directory at a location meets, the directory itself first. -/
def walk (t : FileTree) (root : Location) (followLinks : Bool) : List Entry :=
  let outer := Level.above t root
  let faults := if outer.any Level.isMalformed then [⟨[], .fault .malformedRules⟩] else []
  let visit : Visit :=
    { place := root, below := [], around := [(root, [])]
      levels := Level.ofDirectory t root root.length :: outer }
  faults ++ ⟨[], .directory⟩ :: visit.entries t followLinks root t.maxDepth

end FileTree

end CodeIdioms
