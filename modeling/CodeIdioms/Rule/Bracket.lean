import CodeIdioms.Rule.Atom

/-! # Bracketed sets

`[…]` lists characters, ranges, class letters, ASCII names and nested sets, and combines them by
`&&`, `--` and `~~`, which associate to the left and bind more weakly than listing.  Every set
comes with its nesting depth, because the dialect bounds the depth of a rule. -/

namespace CodeIdioms.Rule

open CodeIdioms.Text

/-- The operators between sets. -/
inductive SetOp where
  | inter
  | diff
  | symmDiff
deriving DecidableEq, Repr

/-- The meaning of an operator. -/
def SetOp.apply : SetOp → Ranges → Ranges → Ranges
  | inter, a, b => a.inter b
  | diff, a, b => a.diff b
  | symmDiff, a, b => a.symmDiff b

/-- The items listed so far: their union, their number and the greatest depth among them. -/
structure Listing where
  set : Ranges := []
  count : Nat := 0
  depth : Nat := 0
deriving Repr

namespace Listing

/-- One item more. -/
def add (l : Listing) (s : Ranges) (depth : Nat) : Listing :=
  ⟨l.set ++ s, l.count + 1, max l.depth depth⟩

/-- The depth of the listing: several items are one level above their own. -/
def level (l : Listing) : Nat := if l.count ≥ 2 then l.depth + 1 else l.depth

end Listing

/-- A set whose closing bracket has not come yet. -/
structure OpenSet where
  negated : Bool
  left : Option (SetOp × Ranges × Nat) := none
  items : Listing := {}
deriving Repr

namespace OpenSet

/-- The set and the depth of everything between the brackets so far. -/
def value (f : Flags) (o : OpenSet) : Ranges × Nat :=
  let s := o.items.set.normalize
  match o.left with
  | none => (s, o.items.level)
  | some (op, a, depth) =>
    let fold := fun s => if f.ignoreCase then foldCase f.unicode s else s
    (op.apply (fold a) (fold s), max depth o.items.level + 1)

/-- Starts the right operand of an operator. -/
def operator (f : Flags) (o : OpenSet) (op : SetOp) : OpenSet :=
  let (s, depth) := o.value f
  { negated := o.negated, left := some (op, s, depth) }

/-- Lists one item more. -/
def add (o : OpenSet) (s : Ranges) (depth : Nat) : OpenSet :=
  { o with items := o.items.add s depth }

end OpenSet

/-- Takes leading hyphens, each a listed character. -/
def takeHyphens (f : Flags) : Nat → OpenSet → Reader OpenSet
  | 0, _, _ => none
  | fuel + 1, o, cs =>
    match cs with
    | [] => none
    | '-' :: rest => takeHyphens f fuel (o.add (Ranges.ofChar '-') 0) (skip f rest)
    | cs => some (o, cs)

/-- Reads what follows an opening bracket: a sign, hyphens and a first `]` that stands for itself. -/
def openSet (f : Flags) (cs : List Char) : Option (OpenSet × List Char) := do
  let (negated, cs) := match skip f cs with
    | '^' :: rest => (true, skip f rest)
    | cs => (false, cs)
  let (o, cs) ← takeHyphens f (cs.length + 1) { negated } cs
  match cs with
  | ']' :: rest =>
    if o.items.count == 0 then
      let rest := skip f rest
      if rest.isEmpty then none else some (o.add (Ranges.ofChar ']') 0, rest)
    else some (o, cs)
  | _ => some (o, cs)

/-- Reads `[:name:]` or `[:^name:]`, after the first bracket. -/
def readAsciiName (cs : List Char) : Option (Bool × Ranges × List Char) :=
  match cs with
  | ':' :: rest =>
    let (negated, rest) := match rest with
      | '^' :: rest => (true, rest)
      | rest => (false, rest)
    match rest.dropWhile (· != ':') with
    | ':' :: ']' :: after =>
      (asciiSet? (String.ofList (rest.takeWhile (· != ':')))).map fun s => (negated, s, after)
    | _ => none
  | _ => none

/-- Reads one end of a range, or a class letter. -/
def readSetAtom (f : Flags) : Reader Atom
  | [] => none
  | '\\' :: cs => readEscape f cs
  | c :: cs => some (.char c, cs)

/-- The code point of a listed character; without the `u` flag it is a byte, so ASCII. -/
def listedCode? (f : Flags) (c : Char) : Option Nat :=
  if f.unicode || c.toNat < 0x80 then some c.toNat else none

/-- Reads a listed character, range or class letter. -/
def readItem (f : Flags) (cs : List Char) : Option (Ranges × List Char) := do
  let (first, rest) ← readSetAtom f cs
  let rest := skip f rest
  let single : Option Ranges := match first with
    | .char c => (listedCode? f c).map fun n => [(n, n)]
    | .set s => some s
    | .look _ => none
  match rest with
  | [] => none
  | '-' :: after =>
    match skip f after with
    | [] => none
    | c :: tail =>
      if c == ']' || c == '-' then single.map (·, rest)
      else
        let (second, rest) ← readSetAtom f (c :: tail)
        match first, second with
        | .char a, .char b =>
          let lo ← listedCode? f a
          let hi ← listedCode? f b
          if lo ≤ hi then some ([(lo, hi)], rest) else none
        | _, _ => none
  | _ => single.map (·, rest)

/-- Reads a bracketed set after its opening bracket; `stack` holds the sets around the innermost
open one.  Every round takes at least one character. -/
def readSetBody (f : Flags) : Nat → List OpenSet → OpenSet → Reader (Ranges × Nat)
  | 0, _, _, _ => none
  | fuel + 1, stack, o, cs =>
    match skip f cs with
    | [] => none
    | '[' :: rest =>
      match readAsciiName rest with
      | some (negated, s, rest) => do
        let s ← finishSet f negated s
        readSetBody f fuel stack (o.add s 0) rest
      | none => do
        let (inner, rest) ← openSet f rest
        readSetBody f fuel (o :: stack) inner rest
    | ']' :: rest => do
      let (s, depth) := o.value f
      let s ← finishSet f o.negated s
      match stack with
      | [] => some ((s, depth + 1), rest)
      | outer :: stack => readSetBody f fuel stack (outer.add s (depth + 1)) rest
    | '&' :: '&' :: rest => readSetBody f fuel stack (o.operator f .inter) rest
    | '-' :: '-' :: rest => readSetBody f fuel stack (o.operator f .diff) rest
    | '~' :: '~' :: rest => readSetBody f fuel stack (o.operator f .symmDiff) rest
    | cs => do
      let (s, rest) ← readItem f cs
      readSetBody f fuel stack (o.add s 0) rest

/-- Reads a bracketed set, after its opening bracket, with its depth. -/
def readSet (f : Flags) (cs : List Char) : Option ((Ranges × Nat) × List Char) := do
  let (o, rest) ← openSet f cs
  readSetBody f (rest.length + 1) [] o rest

end CodeIdioms.Rule
