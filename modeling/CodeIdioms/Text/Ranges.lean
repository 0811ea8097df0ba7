/-! # Sets of code points

A set of code points is a list of closed ranges.  The operations keep the list in ascending
order, with a gap between any two neighbours, so membership can stop at the first range that
lies above the code point. -/

namespace CodeIdioms.Text

/-- Closed ranges of code points. -/
abbrev Ranges := List (Nat × Nat)

/-- The greatest code point. -/
def maxCode : Nat := 0x10FFFF

namespace Ranges

/-- Membership in an ascending list of ranges. -/
def contains : Ranges → Nat → Bool
  | [], _ => false
  | (lo, hi) :: rest, c => if c < lo then false else if c ≤ hi then true else contains rest c

/-- Whether a character belongs to the set. -/
def hasChar (s : Ranges) (c : Char) : Bool := s.contains c.toNat

/-- The set of one character. -/
def ofChar (c : Char) : Ranges := [(c.toNat, c.toNat)]

/-- Joins ranges that touch or overlap, in a list ordered by lower ends. -/
def coalesce : Ranges → Ranges
  | [] => []
  | (lo, hi) :: rest =>
    match coalesce rest with
    | [] => [(lo, hi)]
    | (lo', hi') :: tail =>
      if lo' ≤ hi + 1 then (lo, max hi hi') :: tail else (lo, hi) :: (lo', hi') :: tail

/-- The same set, ascending and with gaps between neighbours. -/
def normalize (s : Ranges) : Ranges :=
  coalesce ((s.filter fun r => r.1 ≤ r.2).mergeSort fun a b => a.1 ≤ b.1)

/-- The code points from `next` to the greatest that lie outside an ascending list. -/
def gapsFrom (next : Nat) : Ranges → Ranges
  | [] => if next ≤ maxCode then [(next, maxCode)] else []
  | (lo, hi) :: rest => if next < lo then (next, lo - 1) :: gapsFrom (hi + 1) rest
    else gapsFrom (hi + 1) rest

/-- The code points outside a normalized set. -/
def complement (s : Ranges) : Ranges := gapsFrom 0 s

/-- The code points in either set. -/
def union (a b : Ranges) : Ranges := normalize (a ++ b)

/-- The code points in both sets. -/
def inter (a b : Ranges) : Ranges := (a.complement.union b.complement).complement

/-- The code points in the first set and not in the second. -/
def diff (a b : Ranges) : Ranges := a.inter b.complement

/-- The code points in exactly one of the sets. -/
def symmDiff (a b : Ranges) : Ranges := (a.union b).diff (a.inter b)

end Ranges

/-! ### Written tables -/

/-- The value of a hexadecimal digit. -/
def hexDigit? (c : Char) : Option Nat :=
  if '0' ≤ c ∧ c ≤ '9' then some (c.toNat - '0'.toNat)
  else if 'a' ≤ c ∧ c ≤ 'f' then some (c.toNat - 'a'.toNat + 10)
  else if 'A' ≤ c ∧ c ≤ 'F' then some (c.toNat - 'A'.toNat + 10)
  else none

/-- The number written by hexadecimal digits; other characters count for nothing. -/
def hexNumber (s : String) : Nat :=
  s.toList.foldl (fun n c => match hexDigit? c with | some d => 16 * n + d | none => n) 0

/-- A named set of code points.  Each line writes ranges as hexadecimal numbers, `lo-hi` or a
single number, with blanks between them. -/
structure NamedRanges where
  names : List String
  lines : List String
deriving Repr

/-- One range of a written table. -/
def readRange (piece : String) : Nat × Nat :=
  match piece.splitOn "-" with
  | [lo, hi] => (hexNumber lo, hexNumber hi)
  | _ => (hexNumber piece, hexNumber piece)

/-- The set that a table entry writes. -/
def NamedRanges.ranges (t : NamedRanges) : Ranges :=
  t.lines.flatMap fun line => (line.splitOn " ").map readRange

/-- The set of the entry that bears a name. -/
def findNamed? (table : List NamedRanges) (name : String) : Option Ranges :=
  (table.find? (·.names.contains name)).map (·.ranges)

end CodeIdioms.Text
