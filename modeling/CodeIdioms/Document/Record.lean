import CodeIdioms.Document.Codec

/-! # Records

A record is written as an object with its fields in order, and read from an object with the fields
in any order among members it does not know, or from an array of the fields in order.  The codec
of a record follows from the list of its fields. -/

namespace CodeIdioms.Document

/-- A field: its name, its codec, its value when it is missing, and the values that are left out
when writing. -/
structure Field (α : Type) where
  name : String
  codec : Codec α
  fallback : Option α := none
  omits : α → Bool := fun _ => false

/-- A field that must be present. -/
def required {α : Type} (name : String) (codec : Codec α) : Field α := { name, codec }

/-- A field with a value for when it is missing. -/
def defaulting {α : Type} (name : String) (codec : Codec α) (value : α) : Field α :=
  { name, codec, fallback := some value }

/-- The fields of a record, with their types. -/
inductive Fields : List Type → Type 1 where
  | nil : Fields []
  | cons {α : Type} {αs : List Type} (f : Field α) (rest : Fields αs) : Fields (α :: αs)

/-- The values of all fields. -/
@[reducible] def Values : List Type → Type
  | [] => Unit
  | α :: αs => α × Values αs

/-- The values of the fields met so far. -/
@[reducible] def Slots : List Type → Type
  | [] => Unit
  | α :: αs => Option α × Slots αs

namespace Fields

/-- No field met yet. -/
def start : {αs : List Type} → Fields αs → Slots αs
  | _, nil => ()
  | _, cons _ rest => (none, rest.start)

/-- The names of the fields. -/
def names : {αs : List Type} → Fields αs → List String
  | _, nil => []
  | _, cons f rest => f.name :: rest.names

/-- Takes a member.  One whose name is no field is skipped. -/
def put : {αs : List Type} → Fields αs → String → Tree → Slots αs → Except Problem (Slots αs)
  | _, nil, _, t, slots =>
    match t.skipFault? with
    | none => .ok slots
    | some f => .error (.fault f)
  | _, cons f rest, k, t, (slot, slots) =>
    if k = f.name then
      match slot with
      | some _ => .error (.mismatch (.duplicateField k))
      | none => (f.codec.read t).map fun x => (some x, slots)
    else (rest.put k t slots).map fun slots => (slot, slots)

/-- Fills the missing fields, or names the first that must not be missing. -/
def fill : {αs : List Type} → Fields αs → Slots αs → Except Problem (Values αs)
  | _, nil, _ => .ok ()
  | _, cons f rest, (slot, slots) =>
    match slot <|> f.fallback with
    | some x => (rest.fill slots).map fun xs => (x, xs)
    | none => .error (.mismatch (.missingField f.name))

/-- Takes the members of an object. -/
def readMembers {αs : List Type} (fields : Fields αs) (ending : Option Break) :
    List (Except Fault String × Tree) → Slots αs → Except Problem (Slots αs)
  | [], slots => match ending with
    | none => .ok slots
    | some b => .error (.fault b.read)
  | (.error f, _) :: _, _ => .error (.fault f)
  | (.ok k, t) :: ms, slots => do
    let slots ← fields.put k t slots
    readMembers fields ending ms slots

/-- Takes the items of an array, the first of which is the `i`-th; an array that ends early is
completed from the values for missing fields. -/
def readItems : {αs : List Type} → Fields αs → (wanted : String) → (ending : Option Break) →
    Nat → List Tree → Except Problem (Values αs)
  | _, nil, _, none, _, [] => .ok ()
  | _, nil, _, some b, _, [] => .error (.fault b.read)
  | _, nil, _, _, _, _ :: _ => .error (.fault .malformed)
  | _, cons f rest, wanted, ending, i, t :: ts => do
    let x ← f.codec.read t
    let xs ← rest.readItems wanted ending (i + 1) ts
    return (x, xs)
  | _, cons _ _, _, some b, _, [] => .error (.fault b.read)
  | _, cons f rest, wanted, none, i, [] =>
    match f.fallback with
    | some x => (rest.readItems wanted none (i + 1) []).map fun xs => (x, xs)
    | none => .error (.mismatch (.wrongLength i wanted))

/-- Writes the fields that are not left out. -/
def write : {αs : List Type} → Fields αs → Values αs → List (String × Value)
  | _, nil, _ => []
  | _, cons f rest, (x, xs) =>
    if f.omits x then rest.write xs else (f.name, f.codec.write x) :: rest.write xs

end Fields

/-- The length of a record written as an array, as messages put it. -/
def lengthText (title : String) (n : Nat) : String :=
  title ++ " with " ++ toString n ++ (if n = 1 then " element" else " elements")

/-- The codec of a record with a title for messages, made from the values of its fields. -/
def Codec.record {α : Type} {αs : List Type} (title : String) (fields : Fields αs)
    (make : Values αs → α) (parts : α → Values αs) : Codec α where
  read
    | .object members ending => do
      let slots ← fields.readMembers ending members fields.start
      return make (← fields.fill slots)
    | .array items ending => do
      let wanted := lengthText title fields.names.length
      return make (← fields.readItems wanted ending 0 items)
    | t => .error (t.unexpected title)
  write x := .object (fields.write (parts x))

end CodeIdioms.Document
