import CodeIdioms.Rule.Search

/-! # Globs

A glob is a pattern for paths.  `?` and `*` stand for one byte and any number of bytes other than
slashes, `**` between slashes for any number of whole names, `[…]` for one byte of a set and
`{…,…}` for a choice; a backslash takes the next character literally.  A bracket that is never
closed is a bracket.

A glob denotes a rule expression over the bytes of a path, each byte taken as the character with
its number, and is matched against the whole path by the rule engine. -/

namespace CodeIdioms

open Text Rule

namespace Glob

/-- The parts of a glob. -/
inductive Token where
  | literal (c : Char)
  | any
  | many
  | leadingNames
  | innerNames
  | trailingNames
  | set (negated : Bool) (ranges : List (Char × Char))
  | choice (branches : List (List Token))
deriving Inhabited

/-! ### Reading -/

/-- A choice that is still open: its branches so far, and the parts before it, each last first. -/
structure Group where
  branches : List (List Token)
  outer : List Token

/-- The parts read so far, last first, and the choices that are open. -/
structure Progress where
  current : List Token := []
  groups : List Group := []
  /-- Whether brackets are still taken as sets. -/
  sets : Bool := true

namespace Progress

/-- One part more. -/
def push (p : Progress) (t : Token) : Progress := { p with current := t :: p.current }

/-- The last part replaced. -/
def replaceLast (p : Progress) (f : Token → Token) : Progress :=
  match p.current with
  | [] => p
  | t :: ts => { p with current := f t :: ts }

/-- A choice opened. -/
def openChoice (p : Progress) : Progress :=
  { p with current := [], groups := ⟨[], p.current⟩ :: p.groups }

/-- A branch of the choice ended; outside of choices a comma is a comma. -/
def nextBranch (p : Progress) : Progress :=
  match p.groups with
  | [] => p.push (.literal ',')
  | g :: gs =>
    { p with current := [], groups := { g with branches := p.current.reverse :: g.branches } :: gs }

/-- The choice closed, if one is open. -/
def closeChoice? (p : Progress) : Option Progress :=
  match p.groups with
  | [] => none
  | g :: gs =>
    some { p with
      current := .choice (p.current.reverse :: g.branches).reverse :: g.outer, groups := gs }

end Progress

/-- How a bracket ends. -/
inductive SetEnd where
  | closed (ranges : List (Char × Char)) (rest : List Char)
  | unclosed
  | inverted

/-- Reads the ranges of a set, last first in `ranges`; `first` tells that a closing bracket is
still literal, `inRange` that a hyphen has opened a range. -/
def readRanges (ranges : List (Char × Char)) (first inRange : Bool) : List Char → SetEnd
  | [] => .unclosed
  | c :: cs =>
    if c = ']' && !first then
      .closed (if inRange then ('-', '-') :: ranges else ranges).reverse cs
    else if c = '-' && !first && !inRange then readRanges ranges false true cs
    else match inRange, ranges with
      | true, (lo, _) :: rest =>
        if c < lo then .inverted else readRanges ((lo, c) :: rest) false false cs
      | _, _ => readRanges ((c, c) :: ranges) false false cs

/-- Reads a set after its opening bracket. -/
def readSet : List Char → Bool × SetEnd
  | '!' :: cs => (true, readRanges [] true false cs)
  | '^' :: cs => (true, readRanges [] true false cs)
  | cs => (false, readRanges [] true false cs)

theorem length_of_readRanges {ranges : List (Char × Char)} {first inRange : Bool}
    {cs : List Char} {rs : List (Char × Char)} {rest : List Char}
    (h : readRanges ranges first inRange cs = .closed rs rest) : rest.length < cs.length := by
  fun_induction readRanges ranges first inRange cs with
  | case1 => simp at h
  | case2 ranges first inRange c cs _ =>
    simp only [SetEnd.closed.injEq] at h
    simp [h.2]
  | case3 _ _ _ _ cs _ _ ih => exact Nat.lt_succ_of_lt (ih h)
  | case4 => simp at h
  | case5 _ _ _ _ _ _ _ _ _ ih => exact Nat.lt_succ_of_lt (ih h)
  | case6 _ _ _ _ cs _ _ _ ih => exact Nat.lt_succ_of_lt (ih h)

theorem length_of_readSet {cs : List Char} {negated : Bool} {rs : List (Char × Char)}
    {rest : List Char} (h : readSet cs = (negated, .closed rs rest)) : rest.length < cs.length := by
  unfold readSet at h
  split at h
  · exact Nat.lt_succ_of_lt (length_of_readRanges (Prod.ext_iff.1 h).2)
  · exact Nat.lt_succ_of_lt (length_of_readRanges (Prod.ext_iff.1 h).2)
  · exact length_of_readRanges (Prod.ext_iff.1 h).2

/-- What two stars stand for, by the character before them and the characters after: the parts so
far, and the number of characters used up after the stars. -/
def readStars (p : Progress) (before : Option Char) (after : List Char) : Progress × Nat :=
  let plain := (p.push .many).push .many
  if p.current.isEmpty then
    match after with
    | [] => (p.push .leadingNames, 0)
    | c :: _ => if c = '/' then (p.push .leadingNames, 1) else (plain, 0)
  else if before != some '/' && (p.groups.isEmpty || (before != some ',' && before != some '{'))
  then (plain, 0)
  else
    let names (t : Token) := p.replaceLast fun
      | .leadingNames => .leadingNames
      | .trailingNames => .trailingNames
      | _ => t
    match after with
    | [] => (names .trailingNames, 0)
    | c :: _ =>
      if (c = ',' || c = '}') && !p.groups.isEmpty then (names .trailingNames, 0)
      else if c = '/' then (names .innerNames, 1)
      else (plain, 0)

/-- The character after two stars and what was used up after them. -/
def lastOf (used : Nat) : Char := if used = 0 then '*' else '/'

/-- Reads a glob; `before` is the character before the rest. -/
def readFrom (p : Progress) (before : Option Char) (cs : List Char) : Option Progress :=
  match cs with
  | [] => some p
  | '*' :: '*' :: cs =>
    let (q, used) := readStars p before cs
    readFrom q (some (lastOf used)) (cs.drop used)
  | '\\' :: [] => none
  | '\\' :: c :: cs => readFrom (p.push (.literal c)) (some c) cs
  | c :: cs =>
    if c = '?' then readFrom (p.push .any) (some c) cs
    else if c = '*' then readFrom (p.push .many) (some c) cs
    else if c = '{' then readFrom p.openChoice (some c) cs
    else if c = '}' then
      match p.closeChoice? with
      | some q => readFrom q (some c) cs
      | none => none
    else if c = ',' then readFrom p.nextBranch (some c) cs
    else if c = '[' && p.sets then
      match h : readSet cs with
      | (negated, .closed ranges rest) =>
        have := length_of_readSet h
        readFrom (p.push (.set negated ranges)) (some ']') rest
      | (_, .unclosed) => readFrom { p.push (.literal c) with sets := false } (some c) cs
      | (_, .inverted) => none
    else readFrom (p.push (.literal c)) (some c) cs
termination_by cs.length
decreasing_by
  all_goals simp_wf
  all_goals omega

/-- The parts of a glob; a range from a greater to a smaller character, an escape at the end and
braces without partner are refused. -/
def tokens? (text : String) : Option (List Token) :=
  match readFrom {} none text.toList with
  | some p => if p.groups.isEmpty then some p.current.reverse else none
  | none => none

/-! ### Meaning -/

/-- The number of the slash. -/
def slash : Nat := 47

/-- A slash. -/
def slashExpr : Expr := .chars [(slash, slash)]

/-- A byte other than the slash. -/
def nameByte : Expr := .chars [(0, slash - 1), (slash + 1, 255)]

/-- A number of bytes. -/
def anything : Expr := .rep (.chars [(0, 255)]) 0 none true

/-- The numbers of the bytes of a character. -/
def bytesOf (c : Char) : List Nat := (String.singleton c).toUTF8.data.toList.map UInt8.toNat

/-- The bytes of a character, one after the other. -/
def literalExpr (c : Char) : Expr := Expr.concat ((bytesOf c).map fun b => .chars [(b, b)])

/-- The bytes of a range of characters.  Only its inner ends are the ends of a range of bytes; the
other bytes stand for themselves. -/
def rangeBytes (r : Char × Char) : Ranges :=
  let singles := List.map fun b => (b, b)
  if r.1 = r.2 then singles (bytesOf r.1)
  else
    let lo := bytesOf r.1
    let hi := bytesOf r.2
    singles lo.dropLast ++ [(lo.getLastD 0, hi.headD 0)] ++ singles hi.tail

/-- The bytes of a set. -/
def setExpr (negated : Bool) (ranges : List (Char × Char)) : Expr :=
  let s := Ranges.normalize (ranges.flatMap rangeBytes)
  .chars (if negated then s.complement else s)

mutual

/-- The expression of a part; nothing when it has no part to match. -/
def Token.expr? : Token → Option Expr
  | .literal c => some (literalExpr c)
  | .any => some nameByte
  | .many => some (.rep nameByte 0 none true)
  | .leadingNames => some (.alt (.rep slashExpr 0 (some 1) true) (.seq anything slashExpr))
  | .innerNames => some (.alt slashExpr (.seq slashExpr (.seq anything slashExpr)))
  | .trailingNames => some (.seq slashExpr anything)
  | .set negated ranges => some (setExpr negated ranges)
  | .choice branches =>
    match branchExprs branches with
    | [] => none
    | es => some (Expr.choice es)

/-- The expressions of parts that follow each other. -/
def exprs : List Token → List Expr
  | [] => []
  | t :: ts => t.expr?.toList ++ exprs ts

/-- The expressions of the branches of a choice; empty branches are left out. -/
def branchExprs : List (List Token) → List Expr
  | [] => []
  | ts :: bs =>
    match exprs ts with
    | [] => branchExprs bs
    | es => Expr.concat es :: branchExprs bs

end

/-- The expression of a glob for whole paths; two stars alone match everything. -/
def wholeExpr : List Token → Expr
  | [.leadingNames] => .empty
  | ts => Expr.concat (.look .textStart :: exprs ts ++ [.look .textEnd])

end Glob

/-- A glob, ready to be matched. -/
structure Glob where
  program : Program
deriving Repr

namespace Glob

/-- The glob that a text writes. -/
def ofText? (text : String) : Option Glob :=
  (tokens? text).map fun ts => ⟨(wholeExpr ts).core.program⟩

/-- Whether a glob matches the bytes of a path. -/
def accepts (g : Glob) (path : List UInt8) : Bool :=
  (g.program.findAt (path.map fun b => Char.ofNat b.toNat).toArray).isSome

end Glob

end CodeIdioms
