import CodeIdioms.Text.Lossy

/-! # Names and paths

The name of a file is a sequence of bytes, most often but not always a text.  A path is a list of
names to follow one after the other, from the top of the tree or from the working directory.  A
path that ends with a slash leads through the directory it names, as if a dot followed. -/

namespace CodeIdioms

/-- The name of a file or directory. -/
abbrev FileName := List UInt8

/-- The names that lead to a file or directory, outermost first. -/
abbrev Location := List FileName

namespace FileName

/-- The byte between the names of a path. -/
def slash : UInt8 := 47

/-- The byte that begins hidden names. -/
def dot : UInt8 := 46

/-- The name that leads to the directory itself. -/
def here : FileName := [dot]

/-- The name that leads to the directory above. -/
def above : FileName := [dot, dot]

/-- The greatest number of bytes in a name. -/
def maxLength : Nat := 255

/-- The name of a text. -/
def ofString (s : String) : FileName := s.toUTF8.data.toList

/-- The text of a name that is one. -/
def text? (n : FileName) : Option String := Text.ofBytes? n

/-- Whether a name is hidden: it begins with a dot. -/
def isHidden (n : FileName) : Bool := n.head? == some dot

end FileName

/-- A way through a tree. -/
structure Path where
  absolute : Bool
  names : List FileName
deriving DecidableEq, Repr

namespace Path

/-- The greatest number of bytes in a path. -/
def maxLength : Nat := 4095

/-- The parts of a list between separators. -/
def splitAt (separator : UInt8) : List UInt8 → List (List UInt8)
  | [] => [[]]
  | b :: bytes =>
    if b = separator then [] :: splitAt separator bytes
    else match splitAt separator bytes with
      | [] => [[b]]
      | part :: parts => (b :: part) :: parts

/-- The path that bytes write. -/
def ofBytes (bytes : List UInt8) : Path :=
  let names := (splitAt FileName.slash bytes).filter (!·.isEmpty)
  { absolute := bytes.head? == some FileName.slash
    names := names ++ if bytes.getLast? == some FileName.slash then [FileName.here] else [] }

/-- The text of a path below a root: the names follow the text of the root, after a slash unless
it ends with one. -/
def join (root : String) (names : List String) : String :=
  match names with
  | [] => root
  | _ => (if root.isEmpty || root.endsWith "/" then root else root ++ "/") ++ "/".intercalate names

end Path

end CodeIdioms
