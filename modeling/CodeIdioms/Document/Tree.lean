import CodeIdioms.Document.Value

/-! # Documents as they are read

Reading a document goes from left to right and stops at the first place where its text is not
JSON.  A `Tree` is what has been read up to there: a value whose last part may be broken.  Some
faults count only when the part is looked at: a string with a lone surrogate and a number beyond
the doubles can be skipped but not read.

`Value.tree` is the tree of a value that is written and read back without fault. -/

namespace CodeIdioms.Document

/-- Why a text is not a document: it goes on wrongly, or it ends too early. -/
inductive Fault where
  | malformed
  | cutShort
deriving DecidableEq, Repr

/-- The fault at a place where reading stops, once for readers of the part that holds the place
and once for those that skip it. -/
structure Break where
  read : Fault
  skipped : Fault
deriving DecidableEq, Repr

/-- The same fault for readers and skippers. -/
def Break.both (f : Fault) : Break := ⟨f, f⟩

/-- What has been read of a document. -/
inductive Tree where
  | null
  | bool (b : Bool)
  | number (n : Option Number)
  | string (s : Option String)
  | array (items : List Tree) (ending : Option Break)
  | object (members : List (Except Fault String × Tree)) (ending : Option Break)
  | broken (b : Break)
deriving Inhabited

namespace Tree

/-- The fault that stops a reader who skips the value. -/
def skipFault? : Tree → Option Fault
  | array _ (some b) => some b.skipped
  | object _ (some b) => some b.skipped
  | broken b => some b.skipped
  | _ => none

end Tree

namespace Value

mutual

/-- The tree of a value that is written and read back. -/
def tree : Value → Tree
  | null => .null
  | bool b => .bool b
  | number n => .number (some n)
  | string s => .string (some s)
  | array items => .array (treeItems items) none
  | object members => .object (treeMembers members) none

/-- The trees of the items of an array. -/
def treeItems : List Value → List Tree
  | [] => []
  | v :: vs => v.tree :: treeItems vs

/-- The trees of the members of an object. -/
def treeMembers : List (String × Value) → List (Except Fault String × Tree)
  | [] => []
  | (k, v) :: ms => (.ok k, v.tree) :: treeMembers ms

end

end Value

/-- A document that has been read: its tree, and whether something follows it. -/
structure Source where
  tree : Tree
  trailing : Bool

end CodeIdioms.Document
