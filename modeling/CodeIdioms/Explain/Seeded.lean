import CodeIdioms.Explain.Draw

/-! # Streams from a seed

A seed determines a stream: it is stretched to a key of eight words by a linear congruential
generator with permuted output, and the key gives the words of the ChaCha cipher with twelve
rounds.  Every number takes two words. -/

namespace CodeIdioms.Cipher

/-- A word rotated to the left. -/
def rotateLeft (x : UInt32) (n : UInt32) : UInt32 := x <<< n ||| x >>> (32 - n)

/-- A word rotated to the right. -/
def rotateRight (x : UInt32) (n : UInt32) : UInt32 := if n = 0 then x else rotateLeft x (32 - n)

/-- A word of a state. -/
def word (s : Array UInt32) (i : Nat) : UInt32 := s.getD i 0

/-- One quarter of a round, on four words of a state. -/
def quarter (s : Array UInt32) (i j k l : Nat) : Array UInt32 :=
  let a := word s i + word s j
  let d := rotateLeft (word s l ^^^ a) 16
  let c := word s k + d
  let b := rotateLeft (word s j ^^^ c) 12
  let a := a + b
  let d := rotateLeft (d ^^^ a) 8
  let c := c + d
  let b := rotateLeft (b ^^^ c) 7
  (((s.setIfInBounds i a).setIfInBounds j b).setIfInBounds k c).setIfInBounds l d

/-- A round on the columns and a round on the diagonals. -/
def doubleRound (s : Array UInt32) : Array UInt32 :=
  let s := quarter (quarter (quarter (quarter s 0 4 8 12) 1 5 9 13) 2 6 10 14) 3 7 11 15
  quarter (quarter (quarter (quarter s 0 5 10 15) 1 6 11 12) 2 7 8 13) 3 4 9 14

/-- The words with which every state begins. -/
def header : List UInt32 := [0x61707865, 0x3320646e, 0x79622d32, 0x6b206574]

/-- The words of a block: the state after twelve rounds, added to the state before. -/
def block (key : List UInt32) (counter : UInt64) : Array UInt32 :=
  let s := (header ++ key ++ [counter.toUInt32, (counter >>> 32).toUInt32, 0, 0]).toArray
  let mixed := (List.range 6).foldl (fun s _ => doubleRound s) s
  Array.zipWith (· + ·) mixed s

/-- The next state of the generator that stretches a seed. -/
def stretchStep (state : UInt64) : UInt64 := state * 6364136223846793005 + 11634580027462260723

/-- The word that a state of the generator gives. -/
def stretchWord (state : UInt64) : UInt32 :=
  rotateRight (((state >>> 18 ^^^ state) >>> 27).toUInt32) (state >>> 59).toUInt32

/-- `n` words of key from a state. -/
def stretch : Nat → UInt64 → List UInt32
  | 0, _ => []
  | n + 1, state =>
    let state := stretchStep state
    stretchWord state :: stretch n state

/-- The `i`-th number of the stream of a key: 53 of the 64 bits of two words. -/
def number (key : List UInt32) (i : Nat) : Float :=
  let words := block key (i / 8).toUInt64
  let low := (word words (2 * (i % 8))).toUInt64
  let high := (word words (2 * (i % 8) + 1)).toUInt64
  ((low ||| high <<< 32) >>> 11).toFloat * (1.0 / 9007199254740992.0)

end CodeIdioms.Cipher

namespace CodeIdioms

/-- The stream of a seed. -/
def Stream.ofSeed (seed : UInt64) : Stream := Cipher.number (Cipher.stretch 8 seed)

end CodeIdioms
