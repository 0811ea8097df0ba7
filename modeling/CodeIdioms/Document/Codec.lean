import CodeIdioms.Document.Problem
import CodeIdioms.SortedMap

/-! # Codecs

A codec reads the values of a type from documents and writes them as documents.  Readers take the
parts of a value from left to right and stop at the first problem.  A codec is faithful on a value
when reading what it wrote gives the value back. -/

namespace CodeIdioms.Document

/-- A reader and a writer of one type. -/
structure Codec (α : Type) where
  read : Tree → Except Problem α
  write : α → Value

namespace Codec

/-- Reading gives back what was written. -/
def Faithful {α : Type} (c : Codec α) (x : α) : Prop := c.read (c.write x).tree = .ok x

/-! ### Plain values -/

/-- Strings. -/
def string : Codec String where
  read
    | .string (some s) => .ok s
    | t => .error (t.unexpected "a string")
  write := .string

/-- Truth values. -/
def bool : Codec Bool where
  read
    | .bool b => .ok b
    | t => .error (t.unexpected "a boolean")
  write := .bool

/-- Doubles; integers are read as the nearest double. -/
def float : Codec Float where
  read
    | .number (some (.float x)) => .ok x
    | .number (some (.natural n)) => .ok n.toFloat
    | .number (some (.negative m)) => .ok (-m.toUInt64.toFloat)
    | t => .error (t.unexpected "f64")
  write := .ofFloat

/-- Natural numbers below `2 ^ 64`, under the name that messages give them. -/
def word (wanted : String) : Codec UInt64 where
  read
    | .number (some (.natural n)) => .ok n
    | .number (some (.negative m)) =>
      .error (.mismatch (.wrongValue (.number (.negative m)) wanted))
    | t => .error (t.unexpected wanted)
  write n := .number (.natural n)

/-- Natural numbers below `2 ^ 32`. -/
def word32 : Codec UInt32 where
  read
    | .number (some (.natural n)) =>
      if n.toNat < UInt32.size then .ok n.toUInt32
      else .error (.mismatch (.wrongValue (.number (.natural n)) "u32"))
    | .number (some (.negative m)) =>
      .error (.mismatch (.wrongValue (.number (.negative m)) "u32"))
    | t => .error (t.unexpected "u32")
  write n := .number (.natural n.toUInt64)

/-- A value or nothing, written as `null`. -/
def option {α : Type} (c : Codec α) : Codec (Option α) where
  read
    | .null => .ok none
    | t => (c.read t).map some
  write
    | none => .null
    | some x => c.write x

/-! ### Sequences -/

/-- Reads items up to the end of their array. -/
def readItems {α : Type} (read : Tree → Except Problem α) (ending : Option Break) :
    List Tree → Except Problem (List α)
  | [] => match ending with
    | none => .ok []
    | some b => .error (.fault b.read)
  | t :: ts => do
    let x ← read t
    let xs ← readItems read ending ts
    return x :: xs

/-- Sequences. -/
def list {α : Type} (c : Codec α) : Codec (List α) where
  read
    | .array items ending => readItems c.read ending items
    | t => .error (t.unexpected "a sequence")
  write xs := .array (xs.map c.write)

/-- Sets of strings. -/
def stringSet : Codec StringSet where
  read t := (list string).read t |>.map StringSet.ofList
  write s := .ofStrings (StringSet.toList s)

/-! ### Names -/

/-- Looks a name up in a list of named values. -/
def lookup {α : Type} (named : List (String × α)) (given : String) : Except Problem α :=
  match named.find? (·.1 == given) with
  | some (_, x) => .ok x
  | none => .error (.mismatch (.unknownVariant given (named.map (·.1))))

/-- Reads what follows the name in an object that stands for a named value. -/
def readEmptyBody (v : Tree) (more : List (Except Fault String × Tree)) (ending : Option Break) :
    Except Problem Unit :=
  match v with
  | .null =>
    match more, ending with
    | [], none => .ok ()
    | [], some b => .error (.fault b.read)
    | _, _ => .error (.fault .malformed)
  | v => .error (v.unexpected "unit")

/-- Values that have names.  The name stands alone or as the only key of an object, with `null`. -/
def named {α : Type} (names : List (String × α)) (nameOf : α → String) : Codec α where
  read
    | .string (some s) => lookup names s
    | .string none => .error (.fault .malformed)
    | .object [] none => .error (.fault .malformed)
    | .object [] (some b) => .error (.fault b.read)
    | .object ((.error f, _) :: _) _ => .error (.fault f)
    | .object ((.ok s, v) :: more) ending => do
      let x ← lookup names s
      readEmptyBody v more ending
      return x
    | .broken b => .error (.fault b.read)
    | _ => .error (.fault .malformed)
  write x := .string (nameOf x)

/-! ### Maps -/

/-- Reads members into an accumulator, up to the end of their object. -/
def readMembers {σ : Type} (put : String → Except Problem (Tree → Except Problem (σ → σ)))
    (ending : Option Break) :
    List (Except Fault String × Tree) → σ → Except Problem σ
  | [], acc => match ending with
    | none => .ok acc
    | some b => .error (.fault b.read)
  | (.error f, _) :: _, _ => .error (.fault f)
  | (.ok k, t) :: ms, acc => do
    let f ← (← put k) t
    readMembers put ending ms (f acc)

/-- Maps from strings; of several members with one key the last counts. -/
def map {α : Type} (c : Codec α) : Codec (SortedMap α) where
  read
    | .object members ending =>
      readMembers (fun k => .ok fun t => (c.read t).map fun x m => m.insert k x) ending members
        SortedMap.empty
    | t => .error (t.unexpected "a map")
  write m := .object (m.entries.map fun e => (e.1, c.write e.2))

/-- Maps from the named values of a finite type.  Members are written in the order of `names`. -/
def table {κ α : Type} [DecidableEq κ] (names : List (String × κ)) (c : Codec α) :
    Codec (κ → Option α) where
  read
    | .object members ending =>
      readMembers (fun k => (lookup names k).map fun key t =>
          (c.read t).map fun x m key' => if key' = key then some x else m key') ending members
        fun _ => none
    | t => .error (t.unexpected "a map")
  write m := .object (names.filterMap fun (name, key) => (m key).map fun x => (name, c.write x))

/-! ### Whole texts -/

/-- Reads a document that is the whole of a text. -/
def readText {α : Type} (c : Codec α) (text : String) : Except Problem α := do
  let source := Source.read text
  let x ← c.read source.tree
  if source.trailing then .error (.fault .malformed) else return x

end Codec

end CodeIdioms.Document
