/-! # The nearest double

The double nearest to a fraction: of the multiples of the greatest power of two that leaves 53 bits,
the nearest one, a half going to the even neighbour. -/

namespace CodeIdioms.Decimal

/-- A fraction rounded to a whole number, a half going to the even neighbour. -/
def roundHalfEven (num den : Nat) : Nat :=
  let c := num / den
  let rest := 2 * (num % den)
  if rest < den then c else if rest > den then c + 1 else if c % 2 == 0 then c else c + 1

/-- A fraction divided by a power of two, as a pair of numbers. -/
def dividedByPower (num den : Nat) (e : Int) : Nat × Nat :=
  if e ≥ 0 then (num, den * Nat.pow 2 e.toNat) else (num * Nat.pow 2 (-e).toNat, den)

/-- The exponent of the greatest power of two that does not exceed a positive fraction. -/
def floorLog (num den : Nat) : Int :=
  let e := (num.log2 : Int) - den.log2
  let (n, d) := dividedByPower num den e
  if n ≥ d then e else e - 1

/-- The bits of infinity: the greatest exponent and no fraction. -/
def infinityBits : Nat := 0x7FF0000000000000

/-- The bits of the double nearest to a fraction that is not negative; too great a fraction gives
infinity. -/
def nearestBits (num den : Nat) : UInt64 :=
  if num = 0 then 0
  else
    let e := max (floorLog num den - 52) (-1074)
    let (n, d) := dividedByPower num den e
    (min ((e + 1074).toNat * 0x10000000000000 + roundHalfEven n d) infinityBits).toUInt64

/-- Magnitudes of decimals beyond this power of ten, or below its inverse, are no finite doubles
other than zero. -/
def beyond : Int := 400

/-- The bits of the double nearest to `digits · 10 ^ exponent`. -/
def nearestBitsOfScaled (digits : Nat) (exponent : Int) : UInt64 :=
  let order := ((Nat.toDigits 10 digits).length : Int) + exponent
  if digits = 0 || order < -beyond then 0
  else if order > beyond then infinityBits.toUInt64
  else if exponent ≥ 0 then nearestBits (digits * Nat.pow 10 exponent.toNat) 1
  else nearestBits digits (Nat.pow 10 (-exponent).toNat)

end CodeIdioms.Decimal
