import CodeIdioms.Decimal.Binary
import CodeIdioms.Decimal.Nearest

/-! # Shortest decimals

The shortest decimal of a double is the one with the fewest digits that reads back as the same
double, and of those the nearest.  A decimal reads back when it lies in the interval of reals that
round to the double; the ends belong to the interval when the significand is even.  The search
tries the grids of multiples of `10 ^ e` from coarse to fine: on each grid only the two neighbours
of the value can be nearest, and the first grid with a neighbour in the interval wins. -/

namespace CodeIdioms.Decimal

/-- The number `digits · 10 ^ exponent`. -/
structure Scaled where
  digits : Nat
  exponent : Int
deriving DecidableEq, Repr

/-- A quantity and the interval around it, as multiples of `1 / unit`. -/
structure Interval where
  low : Nat
  value : Nat
  high : Nat
  unit : Nat
  closed : Bool
deriving DecidableEq, Repr

/-- The reals that round to a magnitude. -/
def Magnitude.interval (m : Magnitude) : Interval :=
  let q := m.exponent - 2
  let scale := if q ≥ 0 then Nat.pow 2 q.toNat else 1
  let unit := if q ≥ 0 then 1 else Nat.pow 2 (-q).toNat
  let v := 4 * m.significand
  { low := (v - if m.narrow then 1 else 2) * scale, value := v * scale, high := (v + 2) * scale, unit,
    closed := m.significand % 2 == 0 }

namespace Interval

/-- Whether a multiple of `1 / unit` lies in the interval. -/
def contains (i : Interval) (x : Nat) : Bool :=
  if i.closed then i.low ≤ x && x ≤ i.high else i.low < x && x < i.high

/-- The interval in units of `10 ^ e`. -/
def onGrid (i : Interval) (e : Int) : Interval :=
  if e ≥ 0 then { i with unit := i.unit * Nat.pow 10 e.toNat }
  else
    let s := Nat.pow 10 (-e).toNat
    { i with low := i.low * s, value := i.value * s, high := i.high * s }

/-- The integer nearest to the value among its two neighbours in the interval; of two equally near
the even one. -/
def nearest? (i : Interval) : Option Nat :=
  let c := i.value / i.unit
  let below := i.contains (c * i.unit)
  let above := i.contains ((c + 1) * i.unit)
  if below && above then
    let rest := 2 * (i.value % i.unit)
    if rest < i.unit then some c
    else if rest > i.unit then some (c + 1)
    else some (if c % 2 == 0 then c else c + 1)
  else if below then some c
  else if above then some (c + 1)
  else none

end Interval

/-- Tries `n` grids downwards from `10 ^ e`. -/
def firstHit (i : Interval) : Nat → Int → Option Scaled
  | 0, _ => none
  | n + 1, e =>
    match (i.onGrid e).nearest? with
    | some c => some ⟨c, e⟩
    | none => firstHit i n (e - 1)

/-- The shortest decimal of a magnitude. -/
def Magnitude.shortest (m : Magnitude) : Scaled :=
  if m.significand = 0 then ⟨0, 0⟩
  else
    let top := ((m.significand.log2 : Int) + m.exponent) * 30103 / 100000 + 2
    (firstHit m.interval 24 top).getD ⟨m.significand, 0⟩

/-- The magnitude as a whole number of units of `10 ^ -places`, a half going to the even
neighbour. -/
def Magnitude.rounded (m : Magnitude) (places : Nat) : Nat :=
  let scale := if m.exponent ≥ 0 then Nat.pow 2 m.exponent.toNat else 1
  let num := m.significand * Nat.pow 10 places * scale
  let den := if m.exponent ≥ 0 then 1 else Nat.pow 2 (-m.exponent).toNat
  roundHalfEven num den

end CodeIdioms.Decimal
