import CodeIdioms.Rule.Bracket

/-! # The rule dialect

Reading a rule from its text.  The dialect has ordered choice, greedy and lazy repetition, groups,
flags, bracketed sets and assertions; it has neither lookaround nor back references.  Reading
keeps the groups that are still open on a stack, so the depth of a rule costs no recursion; a
rule whose depth exceeds `maxDepth` is refused. -/

namespace CodeIdioms.Rule

open CodeIdioms.Text

/-- The greatest nesting depth of a rule. -/
def maxDepth : Nat := 250

/-- An expression with its nesting depth.  A change of flags is a part that cannot be repeated. -/
structure Piece where
  expr : Expr
  depth : Nat := 0
  repeatable : Bool := true

/-- A group whose closing parenthesis has not come yet, as seen from inside: the flags to return
to and the parts before the group. -/
structure OpenGroup where
  flags : Flags
  branches : List Piece
  pieces : List Piece

/-- A rule half read.  Branches and pieces are those of the innermost open group, last first. -/
structure Reading where
  rest : List Char
  flags : Flags := {}
  names : List (List Char) := []
  groups : List OpenGroup := []
  branches : List Piece := []
  pieces : List Piece := []

/-- The greatest depth of a list of pieces; several are one level above their own. -/
def joinedDepth (ps : List Piece) : Nat :=
  let deepest := ps.foldl (fun d p => max d p.depth) 0
  if ps.length ≥ 2 then deepest + 1 else deepest

/-- The concatenation of pieces given last first. -/
def joinPieces (ps : List Piece) : Piece :=
  { expr := Expr.concat (ps.reverse.map (·.expr)), depth := joinedDepth ps }

/-- The choice among branches given last first. -/
def joinBranches (bs : List Piece) : Piece :=
  { expr := Expr.choice (bs.reverse.map (·.expr)), depth := joinedDepth bs }

namespace Reading

/-- One piece more. -/
def push (r : Reading) (p : Piece) (rest : List Char) : Reading :=
  { r with pieces := p :: r.pieces, rest }

/-- Everything in the innermost open group. -/
def body (r : Reading) : Piece := joinBranches (joinPieces r.pieces :: r.branches)

/-- Opens a group whose body starts under the given flags. -/
def openGroup (r : Reading) (flags : Flags) (rest : List Char) : Reading :=
  { r with rest, flags, groups := ⟨r.flags, r.branches, r.pieces⟩ :: r.groups,
           branches := [], pieces := [] }

/-- Closes the innermost group. -/
def closeGroup (r : Reading) (rest : List Char) : Option Reading :=
  match r.groups with
  | [] => none
  | g :: groups =>
    let body := r.body
    some { r with rest, flags := g.flags, groups, branches := g.branches,
                  pieces := { body with depth := body.depth + 1 } :: g.pieces }

end Reading

/-! ### Groups -/

/-- Whether a character may stand in the name of a group, at its start or further on. -/
def isNameChar (first : Bool) (c : Char) : Bool :=
  let alphabetic := ((findNamed? binaryProperties "alphabetic").getD []).hasChar c
  if first then c == '_' || alphabetic
  else c == '_' || c == '.' || c == '[' || c == ']' || alphabetic
    || ["nd", "nl", "no"].any fun n => ((findNamed? generalCategories n).getD []).hasChar c

/-- Reads the name of a group up to its `>`. -/
def readName (cs : List Char) : Option (List Char × List Char) :=
  let name := cs.takeWhile (· != '>')
  match name, cs.dropWhile (· != '>') with
  | c :: tail, '>' :: rest =>
    if isNameChar true c && tail.all (isNameChar false) then some (name, rest) else none
  | _, _ => none

/-- Opens a named group. -/
def openNamed (r : Reading) (cs : List Char) : Option Reading := do
  let (name, rest) ← readName cs
  if r.names.contains name then none
  else some { r.openGroup r.flags rest with names := name :: r.names }

/-- Reads what follows an opening parenthesis. -/
def readGroup (r : Reading) (cs : List Char) : Option Reading :=
  match skip r.flags cs with
  | '?' :: 'P' :: '<' :: rest => openNamed r rest
  | '?' :: '<' :: '=' :: _ => none
  | '?' :: '<' :: '!' :: _ => none
  | '?' :: '<' :: rest => openNamed r rest
  | '?' :: rest => do
    let (change, rest) ← readFlags [] false false rest
    let flags := r.flags.apply change
    if change.closed then
      some { r.push { expr := .empty, repeatable := false } rest with flags }
    else some (r.openGroup flags rest)
  | cs => some (r.openGroup r.flags cs)

/-! ### Repetition -/

/-- Repeats the last piece. -/
def repeatLast (r : Reading) (low : Nat) (high : Option Nat) (rest : List Char) : Option Reading :=
  match r.pieces with
  | [] => none
  | p :: ps =>
    if !p.repeatable then none
    else
      let (greedy, rest) := match rest with
        | '?' :: rest => (false, rest)
        | rest => (true, rest)
      let expr := .rep p.expr low high (greedy != r.flags.swapGreed)
      some { r with pieces := { expr, depth := p.depth + 1 } :: ps, rest }

/-- Reads a counted repetition, after its opening brace. -/
def readRepetition (r : Reading) (cs : List Char) : Option Reading := do
  if r.pieces.isEmpty then none
  let f := r.flags
  let cs := skip f cs
  let (low, cs) ← readCount f cs
  let low ← low
  let (high, cs) ← match cs with
    | ',' :: cs =>
      match skip f cs with
      | [] => none
      | '\x7d' :: _ => some ((none : Option Nat), skip f cs)
      | cs => do
        let (high, cs) ← readCount f cs
        let high ← high
        some (some high, cs)
    | cs => some (some low, cs)
  match cs with
  | '\x7d' :: rest =>
    if high.any (· < low) then none else repeatLast r low high (skip f rest)
  | _ => none

/-! ### Single parts -/

/-- The set that the dot stands for.  Without the `u` flag it would match single bytes. -/
def dotSet? (f : Flags) : Option Ranges :=
  if !f.unicode then none
  else if f.dotAll then some [(0, maxCode)]
  else if f.crlf then some (Ranges.complement [(0xa, 0xa), (0xd, 0xd)])
  else some (Ranges.complement [(0xa, 0xa)])

/-- The expression of an atom; a character stands for its variants too when case is ignored. -/
def atomExpr (f : Flags) : Atom → Expr
  | .char c =>
    let s := Ranges.ofChar c
    .chars (if f.ignoreCase then foldCase f.unicode s else s)
  | .set s => .chars s
  | .look l => .look l

/-- The assertion `^` under the flags. -/
def lineStart (f : Flags) : Look :=
  if f.multiLine then (if f.crlf then .crlfLineStart else .lineStart) else .textStart

/-- The assertion `$` under the flags. -/
def lineEnd (f : Flags) : Look :=
  if f.multiLine then (if f.crlf then .crlfLineEnd else .lineEnd) else .textEnd

/-- Reads the next part of a rule, which starts with `c`. -/
def readPart (r : Reading) (c : Char) (cs : List Char) : Option Reading :=
  let f := r.flags
  match c with
  | '(' => readGroup r cs
  | ')' => r.closeGroup cs
  | '|' => some { r with branches := joinPieces r.pieces :: r.branches, pieces := [], rest := cs }
  | '[' => (readSet f cs).map fun ((s, depth), rest) => r.push { expr := .chars s, depth } rest
  | '?' => repeatLast r 0 (some 1) cs
  | '*' => repeatLast r 0 none cs
  | '+' => repeatLast r 1 none cs
  | '\x7b' => readRepetition r cs
  | '\\' => (readEscape f cs).map fun (a, rest) => r.push { expr := atomExpr f a } rest
  | '.' => (dotSet? f).map fun s => r.push { expr := .chars s } cs
  | '^' => some (r.push { expr := .look (lineStart f) } cs)
  | '$' => some (r.push { expr := .look (lineEnd f) } cs)
  | c => some (r.push { expr := atomExpr f (.char c) } cs)

/-- Reads parts until the text ends; every part takes at least one character. -/
def readParts : Nat → Reading → Option Reading
  | 0, _ => none
  | fuel + 1, r =>
    match skip r.flags r.rest with
    | [] => some r
    | c :: cs => (readPart r c cs).bind (readParts fuel)

/-- The expression that a rule's text denotes, or `none` when the text is not a rule. -/
def Expr.ofRule? (rule : String) : Option Expr := do
  let r ← readParts (rule.length + 1) { rest := rule.toList }
  if !r.groups.isEmpty then none
  let body := r.body
  if body.depth ≤ maxDepth then some body.expr else none

end CodeIdioms.Rule
