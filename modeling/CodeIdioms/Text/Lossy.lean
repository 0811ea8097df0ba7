/-! # Reading bytes as text

Bytes are read as UTF-8.  Where they are not UTF-8, every longest part that could have begun a
character is shown as one replacement character. -/

namespace CodeIdioms.Text

/-- The text of bytes that are UTF-8. -/
def ofBytes? (bytes : List UInt8) : Option String := String.fromUTF8? ⟨bytes.toArray⟩

/-- What stands for bytes that are not text. -/
def replacement : Char := '\ufffd'

/-- The range of most bytes after the first of a character. -/
def anyContinuation : Nat × Nat := (0x80, 0xBF)

/-- The bits that the first byte of a character gives, and the ranges of the bytes that must
follow it; nothing when no character begins with the byte. -/
def leading? (b : Nat) : Option (Nat × List (Nat × Nat)) :=
  if b < 0x80 then some (b, [])
  else if b < 0xC2 then none
  else if b < 0xE0 then some (b - 0xC0, [anyContinuation])
  else if b = 0xE0 then some (0, [(0xA0, 0xBF), anyContinuation])
  else if b = 0xED then some (0xD, [(0x80, 0x9F), anyContinuation])
  else if b < 0xF0 then some (b - 0xE0, [anyContinuation, anyContinuation])
  else if b = 0xF0 then some (0, [(0x90, 0xBF), anyContinuation, anyContinuation])
  else if b < 0xF4 then some (b - 0xF0, [anyContinuation, anyContinuation, anyContinuation])
  else if b = 0xF4 then some (4, [(0x80, 0x8F), anyContinuation, anyContinuation])
  else none

/-- Takes the bytes that must follow: the completed code point, if all are there, and the rest. -/
def following : List (Nat × Nat) → Nat → List UInt8 → Option Nat × List UInt8
  | [], code, bytes => (some code, bytes)
  | _ :: _, _, [] => (none, [])
  | (lo, hi) :: ranges, code, b :: bytes =>
    if lo ≤ b.toNat ∧ b.toNat ≤ hi then following ranges (64 * code + (b.toNat - 0x80)) bytes
    else (none, b :: bytes)

theorem length_following_le (ranges : List (Nat × Nat)) (code : Nat) (bytes : List UInt8) :
    (following ranges code bytes).2.length ≤ bytes.length := by
  fun_induction following ranges code bytes with
  | case1 => exact Nat.le_refl _
  | case2 => exact Nat.le_refl _
  | case3 _ _ _ _ _ _ _ ih => exact Nat.le_succ_of_le ih
  | case4 => exact Nat.le_refl _

/-- The characters that bytes show. -/
def lossyChars : List UInt8 → List Char
  | [] => []
  | b :: bytes =>
    match leading? b.toNat with
    | none => replacement :: lossyChars bytes
    | some (code, ranges) =>
      let taken := following ranges code bytes
      (taken.1.map Char.ofNat).getD replacement :: lossyChars taken.2
termination_by bytes => bytes.length
decreasing_by
  · simp
  · have := length_following_le ranges code bytes
    simp only [List.length_cons]
    omega

/-- The text that bytes show. -/
def lossy (bytes : List UInt8) : String := String.ofList (lossyChars bytes)

end CodeIdioms.Text
