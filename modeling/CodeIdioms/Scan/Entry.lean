import CodeIdioms.FileTree.Path
import CodeIdioms.FileFault

/-! # Entries of a walk

A walk through a directory meets files, directories and links, and places where it cannot go on.
Each has a location below the root of the walk. -/

namespace CodeIdioms

/-- Why a walk cannot go on: a link that leads nowhere, a link that leads to a directory around it
at a location below the root, or a malformed ignore file of a directory above the root. -/
inductive WalkFault where
  | brokenLink (fault : FileFault)
  | circularLink (around : Location)
  | malformedRules
deriving DecidableEq, Repr

/-- What a walk meets. -/
inductive EntryKind where
  | file
  | directory
  | link
  | fault (f : WalkFault)
deriving DecidableEq, Repr

/-- A location below the root of a walk, and what stands there. -/
structure Entry where
  location : Location
  kind : EntryKind
deriving DecidableEq, Repr

/-- The text of a path below a root, whether or not its names are texts. -/
def Location.shown (root : String) (l : Location) : String := Path.join root (l.map Text.lossy)

/-- The text of a fault at a location below a root. -/
def WalkFault.message (root : String) (l : Location) : WalkFault → String
  | brokenLink f =>
    let path := l.shown root
    path ++ ": IO error for operation on " ++ path ++ ": " ++ f.message
  | circularLink around =>
    "File system loop found: " ++ l.shown root ++ " points to an ancestor " ++ around.shown root
  | malformedRules => "malformed line in an ignore file above " ++ l.shown root

end CodeIdioms
