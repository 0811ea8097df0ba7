/-! # Drawing from a stream

Randomness is a stream of numbers in `[0, 1)` that the caller supplies; what has been drawn so far
is the number of values used up.  A stream may repeat a list of numbers, or come from a seed. -/

namespace CodeIdioms

/-- A stream of numbers. -/
abbrev Stream := Nat → Float

/-- An action that uses up values of a stream. -/
abbrev Drawing (α : Type) := StateM Nat α

namespace Stream

/-- The greatest number that a repeated list gives. -/
def almostOne : Float := 0.9999999999999998

/-- A number brought between 0 and the greatest number below 1 that the stream gives; a NaN is kept. -/
def clamp (x : Float) : Float :=
  if x < 0.0 then 0.0 else if x > almostOne then almostOne else x

/-- The stream that repeats a list of numbers; an empty list gives zeros. -/
def ofList (values : Array Float) : Stream := fun i =>
  match values[i % values.size]? with
  | some x => clamp x
  | none => 0.0

/-- Uses up one value. -/
def next (s : Stream) : Drawing Float := fun i => (s i, i + 1)

/-- The index below `n` that a number picks: its share of `n`, rounded down, and at most the last. -/
def indexOf (x : Float) (n : UInt64) : UInt64 := min (x * n.toFloat).toUInt64 (n - 1)

/-- Picks an index below `n` from one value; nothing is used up when there is no index. -/
def pickIndex (s : Stream) (n : UInt64) : Drawing (Option UInt64) :=
  if n = 0 then pure none
  else do
    let x ← s.next
    return some (indexOf x n)

/-- Picks a member of a list from one value; nothing is used up when the list is empty. -/
def pick {α : Type} (s : Stream) (pool : List α) : Drawing (Option α) := do
  let i ← s.pickIndex (UInt64.ofNatClamp pool.length)
  return i.bind fun i => pool[i.toNat]?

end Stream

end CodeIdioms
