import CodeIdioms.Decimal.Nearest

/-! # Numbers as users spell them

A natural number is spelled by digits, with or without a plus.  A double is spelled by digits with
an optional point and an optional exponent, or by the name of a special value in any case; it
stands for the nearest double. -/

namespace CodeIdioms.Decimal

/-- The number that digits write. -/
def digitsValue (ds : List Char) : Nat := ds.foldl (fun n c => 10 * n + (c.toNat - '0'.toNat)) 0

/-- The number that a text of digits spells, if it is below a bound. -/
def readNatural? (bound : Nat) (s : String) : Option Nat :=
  let ds := match s.toList with
    | '+' :: cs => cs
    | cs => cs
  if ds.isEmpty || !ds.all Char.isDigit then none
  else
    let n := digitsValue ds
    if n < bound then some n else none

/-- The 64-bit word that a text spells. -/
def readWord? (s : String) : Option UInt64 := (readNatural? UInt64.size s).map Nat.toUInt64

/-- Takes a sign: whether it is a minus, and the rest. -/
def takeSign (cs : List Char) : Bool × List Char :=
  match cs with
  | '-' :: cs => (true, cs)
  | '+' :: cs => (false, cs)
  | cs => (false, cs)

/-- The exponent that the rest of a spelled double writes; no rest writes zero. -/
def readExponent? (cs : List Char) : Option Int :=
  match cs with
  | [] => some 0
  | c :: cs =>
    let (negative, ds) := takeSign cs
    if c.toLower ≠ 'e' || ds.isEmpty || !ds.all Char.isDigit then none
    else some (if negative then -(digitsValue ds : Int) else digitsValue ds)

/-- The bits of the double that digits spell, with an optional point and an optional exponent. -/
def readDigits? (cs : List Char) : Option UInt64 :=
  let whole := cs.takeWhile Char.isDigit
  let (fraction, rest) := match cs.dropWhile Char.isDigit with
    | '.' :: cs => (cs.takeWhile Char.isDigit, cs.dropWhile Char.isDigit)
    | cs => ([], cs)
  if whole.isEmpty && fraction.isEmpty then none
  else (readExponent? rest).map fun e =>
    nearestBitsOfScaled (digitsValue (whole ++ fraction)) (e - fraction.length)

/-- The bits of a special value by its name. -/
def readSpecial? (cs : List Char) : Option UInt64 :=
  let name := String.ofList (cs.map Char.toLower)
  if name = "inf" || name = "infinity" then some infinityBits.toUInt64
  else if name = "nan" then some (infinityBits + 0x8000000000000).toUInt64
  else none

/-- The double that a text spells. -/
def readFloat? (s : String) : Option Float :=
  let (negative, cs) := takeSign s.toList
  (readSpecial? cs <|> readDigits? cs).map fun bits =>
    Float.ofBits (if negative then bits ||| 0x8000000000000000 else bits)

end CodeIdioms.Decimal
