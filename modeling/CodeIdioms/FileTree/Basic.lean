import CodeIdioms.FileTree.Path
import CodeIdioms.FileFault

/-! # File trees

A tree of directories, files and symbolic links, as it is found when the program runs.  A path
leads to a location by following its names from the working directory, and the targets of links on
the way; links are followed a bounded number of times, so a circle of links ends in a fault. -/

namespace CodeIdioms

/-- A tree of files. -/
inductive FileTree where
  | file (contents : ByteArray)
  | directory (entries : List (FileName × FileTree))
  | link (target : List UInt8)
deriving Inhabited

namespace FileTree

/-- The directory with nothing in it. -/
def empty : FileTree := directory []

/-- The entry of a directory with a name. -/
def child? : FileTree → FileName → Option FileTree
  | directory entries, name => (entries.find? (·.1 == name)).map (·.2)
  | _, _ => none

/-- What stands at a location; no link is followed. -/
def at? : FileTree → Location → Option FileTree
  | t, [] => some t
  | t, name :: names => match t.child? name with
    | some t => t.at? names
    | none => none

/-- Whether a directory stands at a location. -/
def hasDirectory (t : FileTree) (l : Location) : Bool :=
  match t.at? l with
  | some (directory _) => true
  | _ => false

/-- The entries of a directory. -/
def entries : FileTree → List (FileName × FileTree)
  | directory es => es
  | _ => []

/-- The tree with something put at a location; what is on the way there becomes a directory. -/
def put (new : FileTree) : Location → FileTree → FileTree
  | [], _ => new
  | name :: names, t =>
    directory (t.entries.filter (·.1 != name)
      ++ [(name, put new names ((t.child? name).getD empty))])

mutual

/-- The number of directories in a tree. -/
def directories : FileTree → Nat
  | directory entries => 1 + directoriesIn entries
  | file _ => 0
  | link _ => 0

/-- The number of directories among entries. -/
def directoriesIn : List (FileName × FileTree) → Nat
  | [] => 0
  | (_, t) :: entries => t.directories + directoriesIn entries

end

/-! ### Following paths -/

/-- The number of links that a path may lead through. -/
def maxLinks : Nat := 40

/-- Follows names from a location; `links` more links may be met. -/
def follow (t : FileTree) (links : Nat) (l : Location) (names : List FileName) :
    Except FileFault Location :=
  match names with
  | [] => .ok l
  | name :: names =>
    if !t.hasDirectory l then .error .notDirectory
    else if name = FileName.here then t.follow links l names
    else if name = FileName.above then t.follow links l.dropLast names
    else if name.length > FileName.maxLength then .error .nameTooLong
    else match t.at? (l ++ [name]) with
      | none => .error .notFound
      | some (link target) =>
        match links with
        | 0 => .error .tooManyLinks
        | links + 1 =>
          let path := Path.ofBytes target
          t.follow links (if path.absolute then [] else l) (path.names ++ names)
      | some _ => t.follow links (l ++ [name]) names
termination_by (links, names.length)

/-- The location that the bytes of a path lead to from a working directory. -/
def resolve (t : FileTree) (working : Location) (path : List UInt8) : Except FileFault Location :=
  if path.isEmpty then .error .notFound
  else if 0 ∈ path then .error .badName
  else if path.length > Path.maxLength then .error .nameTooLong
  else
    let p := Path.ofBytes path
    t.follow maxLinks (if p.absolute then [] else working) p.names

/-- What the bytes of a path lead to. -/
def open? (t : FileTree) (working : Location) (path : List UInt8) : Except FileFault FileTree := do
  let l ← t.resolve working path
  match t.at? l with
  | some found => return found
  | none => throw .notFound

/-! ### Reading -/

/-- The size in bytes that a directory is said to have. -/
def directorySize : Nat := 4096

/-- The size in bytes of a file. -/
def size : FileTree → Nat
  | file contents => contents.size
  | directory _ => directorySize
  | link target => target.length

/-- The bytes of a file. -/
def bytes : FileTree → Except FileFault ByteArray
  | file contents => .ok contents
  | _ => .error .isDirectory

/-- The text of bytes. -/
def textOf (contents : ByteArray) : Except FileFault String :=
  match String.fromUTF8? contents with
  | some s => .ok s
  | none => .error .notText

/-- The text of the file that a path leads to. -/
def readText (t : FileTree) (working : Location) (path : String) : Except FileFault String := do
  textOf (← (← t.open? working (FileName.ofString path)).bytes)

/-- The size of the file that a path leads to. -/
def readSize (t : FileTree) (working : Location) (path : String) : Except FileFault Nat :=
  (t.open? working (FileName.ofString path)).map size

end FileTree

end CodeIdioms
