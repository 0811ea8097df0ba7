import CodeIdioms.Decimal.Shortest

/-! # Written decimals

Three ways to write a double: plainly, with all digits in place and no exponent; for a document,
with a point or an exponent always present; and with a fixed number of places. -/

namespace CodeIdioms.Decimal

/-- `n` zeros. -/
def zeros (n : Nat) : String := String.ofList (List.replicate n '0')

/-- The digits of a natural number. -/
def digitsOf (n : Nat) : List Char := Nat.toDigits 10 n

/-- Digits with the point after the first `point` of them, padded with zeros on either side. -/
def placed (ds : List Char) (point : Int) : String :=
  if point ≤ 0 then "0." ++ zeros (-point).toNat ++ String.ofList ds
  else if (ds.length : Int) ≤ point then String.ofList ds ++ zeros (point - ds.length).toNat
  else String.ofList (ds.take point.toNat) ++ "." ++ String.ofList (ds.drop point.toNat)

/-- A scaled number without exponent: `15`, `0.25`, `1000000`. -/
def Scaled.plain (s : Scaled) : String :=
  if s.digits = 0 then "0"
  else
    let ds := digitsOf s.digits
    placed ds (ds.length + s.exponent)

/-- The layout of doubles in documents: the numbers of leading digits and of leading zeros up to
which no exponent is used. -/
structure Layout where
  maxPoint : Int
  minPoint : Int
deriving DecidableEq, Repr

/-- Documents write up to sixteen digits before the point and up to four zeros after it. -/
def documentLayout : Layout := ⟨16, -5⟩

/-- An exponent with its sign. -/
def exponentText (e : Int) : String := (if e < 0 then "e-" else "e+") ++ toString e.natAbs

/-- A scaled number with a point or an exponent: `15.0`, `0.25`, `1e-7`, `1.5e+300`. -/
def Scaled.marked (l : Layout) (s : Scaled) : String :=
  if s.digits = 0 then "0.0"
  else
    let ds := digitsOf s.digits
    let point := (ds.length : Int) + s.exponent
    if l.minPoint < point ∧ point ≤ l.maxPoint then
      placed ds point ++ (if (ds.length : Int) ≤ point then ".0" else "")
    else
      let head := String.ofList (ds.take 1)
      let tail := ds.drop 1
      head ++ (if tail.isEmpty then "" else "." ++ String.ofList tail) ++ exponentText (point - 1)

/-- A double without exponent: `0.7`, `2`, `NaN`, `-inf`. -/
def plain (x : Float) : String :=
  match shape x with
  | .nan => "NaN"
  | .infinite negative => if negative then "-inf" else "inf"
  | .finite negative m => (if negative then "-" else "") ++ m.shortest.plain

/-- A finite double as documents write it: `0.7`, `2.0`, `-0.0`; others as `null`. -/
def documentText (x : Float) : String :=
  match shape x with
  | .finite negative m => (if negative then "-" else "") ++ m.shortest.marked documentLayout
  | _ => "null"

/-- A double with a fixed number of places. -/
def fixed (places : Nat) (x : Float) : String :=
  match shape x with
  | .nan => "NaN"
  | .infinite negative => if negative then "-inf" else "inf"
  | .finite negative m =>
    let n := m.rounded places
    let body := toString (n / Nat.pow 10 places)
    let tail := (digitsOf (n % Nat.pow 10 places))
    (if negative then "-" else "") ++ body
      ++ (if places = 0 then "" else "." ++ zeros (places - tail.length) ++ String.ofList tail)

end CodeIdioms.Decimal
