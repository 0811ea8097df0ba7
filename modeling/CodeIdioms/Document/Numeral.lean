import CodeIdioms.Document.Tree
import CodeIdioms.Decimal.Nearest

/-! # Numbers in documents

A number without fraction and exponent is an integer if it fits in 64 bits.  All others are doubles,
computed from at most nineteen or twenty leading digits: the digits that fit in 64 bits are
collected in a significand, which is then multiplied or divided by a power of ten.  Two rounded
steps may differ from the nearest double in the last place; a result beyond the doubles is none
at all. -/

namespace CodeIdioms.Document

/-- The value of a decimal digit. -/
def digitValue (c : Char) : Nat := c.toNat - '0'.toNat

/-- A significand below `2 ^ 64` with a power of ten. -/
structure Significand where
  digits : Nat
  exponent : Int
deriving DecidableEq, Repr

namespace Significand

/-- Whether a further digit still fits. -/
def fits (s : Significand) (c : Char) : Bool := 10 * s.digits + digitValue c < UInt64.size

/-- Takes integer digits; those that no longer fit, and all after them, count as zeros. -/
def addInteger (s : Significand) : List Char → Significand
  | [] => s
  | c :: cs => if s.fits c then addInteger { s with digits := 10 * s.digits + digitValue c } cs
    else { s with exponent := s.exponent + (cs.length + 1) }

/-- Takes digits after the point, up to the first that no longer fits. -/
def addFraction (s : Significand) : List Char → Significand
  | [] => s
  | c :: cs =>
    if s.fits c then addFraction ⟨10 * s.digits + digitValue c, s.exponent - 1⟩ cs else s

/-- A power of ten as a double. -/
def power (n : Nat) : Float := Float.ofBits (Decimal.nearestBitsOfScaled 1 n)

/-- Scales a double by a power of ten, in steps of `10 ^ 308`. -/
def scale : Nat → Float → Int → Option Float
  | 0, x, _ => some x
  | fuel + 1, x, e =>
    if e.natAbs ≤ 308 then
      let y := if e ≥ 0 then x * power e.natAbs else x / power e.natAbs
      if y.isInf then none else some y
    else if x == 0.0 then some x
    else if e ≥ 0 then none
    else scale fuel (x / power 308) (e + 308)

/-- The double of a significand, if there is one. -/
def toFloat? (negative : Bool) (s : Significand) : Option Float :=
  (scale 8 s.digits.toUInt64.toFloat s.exponent).map fun x => if negative then -x else x

end Significand

/-- The number that an integer without fraction and exponent writes. -/
def integerOf (negative : Bool) (s : Significand) : Option Number :=
  if s.exponent ≠ 0 then (s.toFloat? negative).map .float
  else if !negative then some (.natural s.digits.toUInt64)
  else if s.digits = 0 || s.digits > UInt64.size / 2 then
    some (.float (-s.digits.toUInt64.toFloat))
  else some (.negative s.digits)

/-- A scanned part: what it holds, or where reading stops in it, and the rest. -/
abbrev Scan (α : Type) := Except Break (α × List Char)

/-- The break at a place where a digit should come. -/
def digitBreak : List Char → Break
  | [] => ⟨.cutShort, .malformed⟩
  | _ => .both .malformed

/-- The number of a significand with a written exponent; exponents beyond 32 bits make everything
but zero overflow or vanish. -/
def exponentOf (negative : Bool) (s : Significand) (minus : Bool) (ds : List Char) : Option Number :=
  let n := ds.foldl (fun n c => 10 * n + digitValue c) 0
  if n < UInt32.size / 2 then
    (Significand.toFloat? negative
      { s with exponent := if minus then s.exponent - n else s.exponent + n }).map .float
  else if s.digits ≠ 0 && !minus then none
  else some (.float (if negative then -0.0 else 0.0))

/-- Scans an exponent, after its letter. -/
def scanExponent (negative : Bool) (s : Significand) (cs : List Char) : Scan (Option Number) :=
  let (minus, cs) := match cs with
    | '-' :: cs => (true, cs)
    | '+' :: cs => (false, cs)
    | cs => (false, cs)
  let ds := cs.takeWhile Char.isDigit
  if ds.isEmpty then .error (digitBreak cs)
  else .ok (exponentOf negative s minus ds, cs.dropWhile Char.isDigit)

/-- Scans what follows the integer digits of a number. -/
def scanTail (negative : Bool) (s : Significand) (cs : List Char) : Scan (Option Number) :=
  match cs with
  | '.' :: cs =>
    let ds := cs.takeWhile Char.isDigit
    if ds.isEmpty then .error (digitBreak cs)
    else
      let s := s.addFraction ds
      match cs.dropWhile Char.isDigit with
      | 'e' :: rest => scanExponent negative s rest
      | 'E' :: rest => scanExponent negative s rest
      | rest => .ok ((s.toFloat? negative).map .float, rest)
  | 'e' :: rest => scanExponent negative s rest
  | 'E' :: rest => scanExponent negative s rest
  | cs => .ok (integerOf negative s, cs)

/-- Scans a number, after its sign. -/
def scanNumber (negative : Bool) (cs : List Char) : Scan (Option Number) :=
  match cs with
  | [] => .error (digitBreak [])
  | '0' :: rest =>
    if rest.head?.any Char.isDigit then .error (.both .malformed)
    else scanTail negative ⟨0, 0⟩ rest
  | c :: _ =>
    if c.isDigit then
      scanTail negative (Significand.addInteger ⟨0, 0⟩ (cs.takeWhile Char.isDigit))
        (cs.dropWhile Char.isDigit)
    else .error (.both .malformed)

end CodeIdioms.Document
