import CodeIdioms.Scan.Entry
import CodeIdioms.FileFault

/-! # What can go wrong in a scan

A scan ends early when its root is no directory, the walk cannot go on, or the path of a file is no
text.  A file that is too large or cannot be read does not end the scan. -/

namespace CodeIdioms

/-- Why a root is refused. -/
inductive RootFault where
  | missing
  | notDirectory
deriving DecidableEq, Repr

/-- What goes wrong in a scan. -/
inductive ScanFault where
  | badRoot (root : String) (fault : RootFault)
  | badPath (root : String) (location : Location)
  | badWalk (root : String) (location : Location) (fault : WalkFault)
  | unreadable (path : String) (fault : FileFault)
  | tooLarge (path : String) (size limit : UInt64)
deriving DecidableEq, Repr

namespace ScanFault

/-- The text of a fault. -/
def message : ScanFault → String
  | badRoot root .missing => "invalid configuration: root path does not exist: " ++ root
  | badRoot root .notDirectory => "invalid configuration: root path is not a directory: " ++ root
  | badPath root l => "path is not valid UTF-8: " ++ l.shown root
  | badWalk root l f => "failed to walk directory: " ++ f.message root l
  | unreadable path f => "failed to read file " ++ path ++ ": " ++ f.message
  | tooLarge path size limit =>
    "file " ++ path ++ " is " ++ toString size.toNat ++ " bytes, larger than the "
      ++ toString limit.toNat ++ " byte limit"

/-- The text of what a fault goes back to, if that is a fault of its own. -/
def cause? : ScanFault → Option String
  | unreadable _ f => some f.message
  | badWalk root l f => some (f.message root l)
  | badRoot _ _ | badPath _ _ | tooLarge _ _ _ => none

/-- Whether the scan of other files goes on. -/
def isRecoverable : ScanFault → Bool
  | unreadable _ _ | tooLarge _ _ _ => true
  | badRoot _ _ | badPath _ _ | badWalk _ _ _ => false

/-- Whether the scan ends. -/
def isFatal (f : ScanFault) : Bool := !f.isRecoverable

/-- The path of the file that a fault is about. -/
def path? : ScanFault → Option String
  | unreadable path _ | tooLarge path _ _ => some path
  | badRoot _ _ | badPath _ _ | badWalk _ _ _ => none

end ScanFault

end CodeIdioms
