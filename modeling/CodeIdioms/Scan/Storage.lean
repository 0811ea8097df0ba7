import CodeIdioms.Scan.Report
import CodeIdioms.Scan.Walk

/-! # File trees as storage

A file tree answers what scans ask, from a working directory. -/

namespace CodeIdioms.FileTree

/-- The walk through the directory that the text of a root leads to. -/
def walkPath (t : FileTree) (working : Location) (root : String) (followLinks : Bool) :
    Except RootFault (List Entry) :=
  match t.resolve working (FileName.ofString root) with
  | .error _ => .error .missing
  | .ok l => if t.hasDirectory l then .ok (t.walk l followLinks) else .error .notDirectory

/-- The storage of a tree. -/
def storage (t : FileTree) (working : Location) : Storage :=
  { size := fun path => (t.readSize working path).map Nat.toUInt64
    text := t.readText working
    walk := t.walkPath working }

end CodeIdioms.FileTree
