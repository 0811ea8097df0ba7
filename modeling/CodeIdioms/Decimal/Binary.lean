/-! # Floating-point numbers as exact quantities

A finite double is `± m · 2 ^ q` with a natural number `m` below `2 ^ 53`.  Everything that is
written or compared about doubles in this library starts from this form or from the bits. -/

namespace CodeIdioms.Decimal

/-- The magnitude `significand · 2 ^ exponent` of a finite double.  `narrow` tells that the next
smaller double is only half as far away as the next greater one. -/
structure Magnitude where
  significand : Nat
  exponent : Int
  narrow : Bool
deriving DecidableEq, Repr

/-- What a double stands for. -/
inductive Shape where
  | nan
  | infinite (negative : Bool)
  | finite (negative : Bool) (magnitude : Magnitude)
deriving DecidableEq, Repr

/-- The shape that 64 bits encode: a sign, eleven bits of exponent and 52 bits of fraction. -/
def shapeOfBits (bits : UInt64) : Shape :=
  let n := bits.toNat
  let negative := n / 0x8000000000000000 == 1
  let biased : Nat := n / 0x10000000000000 % 0x800
  let fraction := n % 0x10000000000000
  if biased == 2047 then
    if fraction == 0 then .infinite negative else .nan
  else if biased == 0 then .finite negative ⟨fraction, -1074, false⟩
  else .finite negative
    ⟨0x10000000000000 + fraction, Int.ofNat biased - 1075, fraction == 0 && biased > 1⟩

/-- The shape of a double. -/
def shape (x : Float) : Shape := shapeOfBits x.toBits

/-- The position of the bits of a double in the total order of doubles: negative ones downwards,
then positive ones upwards, so that `-0.0` comes before `0.0` and NaN lies at the ends. -/
def orderKey (x : Float) : Nat :=
  let n := x.toBits.toNat
  if n < 0x8000000000000000 then 0x8000000000000000 + n else 0xFFFFFFFFFFFFFFFF - n

/-- Whether `x` comes no later than `y` in the total order of doubles. -/
def totalLe (x y : Float) : Bool := orderKey x ≤ orderKey y

end CodeIdioms.Decimal
