import CodeIdioms.Document.Numeral
import CodeIdioms.Text.Ranges

/-! # Reading documents

`Source.read` turns a text into the tree of the document it holds.  Containers that are still open
stand on a stack, so nesting costs no recursion, and every round takes at least one character. -/

namespace CodeIdioms.Document

open CodeIdioms.Text (hexDigit?)

/-- Whether a character may stand between the parts of a document. -/
def isSpace (c : Char) : Bool := c == ' ' || c == '\n' || c == '\t' || c == '\r'

/-- The text from the next part on. -/
def dropSpace (cs : List Char) : List Char := cs.dropWhile isSpace

/-- The fault at the end of the text, or at a character that should not be there. -/
def faultAt : List Char → Fault
  | [] => .cutShort
  | _ => .malformed

/-! ### Strings -/

/-- Scans four hexadecimal digits.  The text is too short when fewer than four bytes are left. -/
def scanFourHex (cs : List Char) : Scan Nat :=
  let four := (cs.take 4).filterMap hexDigit?
  if four.length = 4 then .ok (four.foldl (fun n d => 16 * n + d) 0, cs.drop 4)
  else if (cs.take 4).foldl (fun n c => n + c.utf8Size) 0 < 4 then .error (.both .cutShort)
  else .error (.both .malformed)

/-- The first half of a pair of code units. -/
def isLeading (n : Nat) : Bool := 0xD800 ≤ n && n ≤ 0xDBFF

/-- The second half of a pair of code units. -/
def isTrailing (n : Nat) : Bool := 0xDC00 ≤ n && n ≤ 0xDFFF

/-- Scans what follows `\u`: the character, or `none` for a lone half of a pair. -/
def scanUnicode (cs : List Char) : Except Break (Option Char × List Char) := do
  let (n, cs) ← scanFourHex cs
  if isTrailing n then return (none, cs)
  if !isLeading n then return (some (Char.ofNat n), cs)
  match cs with
  | [] => .error (.both .cutShort)
  | ['\\'] => .error (.both .cutShort)
  | '\\' :: 'u' :: rest =>
    let (m, rest) ← scanFourHex rest
    if isTrailing m then
      return (some (Char.ofNat (0x10000 + (n - 0xD800) * 0x400 + (m - 0xDC00))), rest)
    else return (none, cs)
  | cs => return (none, cs)

/-- The character of a one-letter escape. -/
def simpleEscape? : Char → Option Char
  | '"' => some '"'
  | '\\' => some '\\'
  | '/' => some '/'
  | 'b' => some '\x08'
  | 'f' => some '\x0c'
  | 'n' => some '\n'
  | 'r' => some '\r'
  | 't' => some '\t'
  | _ => none

/-- The break inside a string; a reader stops earlier, at the first lone half of a pair. -/
def stringBreak (lone : Bool) (b : Break) : Break := if lone then ⟨.malformed, b.skipped⟩ else b

/-- Scans a string after its opening quote: its text, or `none` if it holds a lone half of a
pair.  `lone` tells that one has been met, `acc` holds the characters so far, last first. -/
def scanString : Nat → Bool → List Char → List Char → Scan (Option String)
  | 0, _, _, _ => .error (.both .cutShort)
  | fuel + 1, lone, acc, cs =>
    match cs with
    | [] => .error (stringBreak lone (.both .cutShort))
    | '"' :: rest => .ok (if lone then none else some (String.ofList acc.reverse), rest)
    | ['\\'] => .error (stringBreak lone (.both .cutShort))
    | '\\' :: 'u' :: rest =>
      match scanUnicode rest with
      | .error b => .error (stringBreak lone b)
      | .ok (some c, rest) => scanString fuel lone (c :: acc) rest
      | .ok (none, rest) => scanString fuel true acc rest
    | '\\' :: c :: rest =>
      match simpleEscape? c with
      | some c => scanString fuel lone (c :: acc) rest
      | none => .error (stringBreak lone (.both .malformed))
    | c :: rest =>
      if c.toNat < 0x20 then .error (stringBreak lone (.both .malformed))
      else scanString fuel lone (c :: acc) rest

/-! ### Words -/

/-- Scans the rest of a word. -/
def scanWord (word : List Char) (t : Tree) (cs : List Char) : Scan Tree :=
  match word, cs with
  | [], cs => .ok (t, cs)
  | _, [] => .error (.both .cutShort)
  | w :: ws, c :: cs => if w = c then scanWord ws t cs else .error (.both .malformed)

/-! ### Containers -/

/-- A container whose closing mark has not come yet; its parts are kept last first. -/
inductive Open where
  | array (items : List Tree)
  | object (members : List (Except Fault String × Tree)) (key : Except Fault String)

/-- A container with one part more. -/
def Open.close (ending : Option Break) (part : Tree) : Open → Tree
  | array items => .array (part :: items).reverse ending
  | object members key => .object ((key, part) :: members).reverse ending

/-- The tree of a document in which reading stops inside some open containers. -/
def stopIn (b : Break) (part : Tree) (opens : List Open) : Source :=
  ⟨opens.foldl (fun t o => o.close (some b) t) part, false⟩

/-- A place in a document between two rounds of reading. -/
inductive Place where
  | value (opens : List Open)
  | key (members : List (Except Fault String × Tree)) (opens : List Open)
  | after (t : Tree) (opens : List Open)

/-- The place after a scanned part. -/
def continueAfter (opens : List Open) : Scan Tree → Except Source (Place × List Char)
  | .ok (t, rest) => .ok (.after t opens, rest)
  | .error b => .error (stopIn b (.broken b) opens)

/-- Reading stops in an object where a key should start: before the first key the object is
unfinished, and after a comma it has a broken member. -/
def stopAtKey (b : Break) (members : List (Except Fault String × Tree)) (opens : List Open) : Source :=
  match members with
  | [] => stopIn b (.object [] (some b)) opens
  | members => stopIn b (.object ((.error b.read, .broken b) :: members).reverse (some b)) opens

/-- One round of reading: the next place, or the document when reading stops. -/
def Place.step (place : Place) (cs : List Char) : Except Source (Place × List Char) :=
  match place with
  | value opens =>
    match dropSpace cs with
    | [] => .error (stopIn (.both .cutShort) (.broken (.both .cutShort)) opens)
    | 'n' :: rest => continueAfter opens (scanWord ['u', 'l', 'l'] .null rest)
    | 't' :: rest => continueAfter opens (scanWord ['r', 'u', 'e'] (.bool true) rest)
    | 'f' :: rest => continueAfter opens (scanWord ['a', 'l', 's', 'e'] (.bool false) rest)
    | '"' :: rest =>
      continueAfter opens ((scanString (rest.length + 1) false [] rest).map fun (s, r) => (.string s, r))
    | '-' :: rest => continueAfter opens ((scanNumber true rest).map fun (n, r) => (.number n, r))
    | '[' :: rest =>
      match dropSpace rest with
      | [] => .error (stopIn (.both .cutShort) (.array [] (some (.both .cutShort))) opens)
      | ']' :: rest => .ok (.after (.array [] none) opens, rest)
      | rest => .ok (.value (.array [] :: opens), rest)
    | '\x7b' :: rest =>
      match dropSpace rest with
      | '\x7d' :: rest => .ok (.after (.object [] none) opens, rest)
      | rest => .ok (.key [] opens, rest)
    | c :: rest =>
      if c.isDigit then
        continueAfter opens ((scanNumber false (c :: rest)).map fun (n, r) => (.number n, r))
      else .error (stopIn (.both .malformed) (.broken (.both .malformed)) opens)
  | key members opens =>
    match dropSpace cs with
    | '"' :: rest =>
      match scanString (rest.length + 1) false [] rest with
      | .error b => .error (stopAtKey b members opens)
      | .ok (s, rest) =>
        let name : Except Fault String := match s with
          | some s => .ok s
          | none => .error .malformed
        match dropSpace rest with
        | ':' :: rest => .ok (.value (.object members name :: opens), rest)
        | rest =>
          let b := Break.both (faultAt rest)
          .error (stopIn b (.broken b) (.object members name :: opens))
    | cs => .error (stopAtKey (.both (faultAt cs)) members opens)
  | after t opens =>
    match opens with
    | [] => .error ⟨t, !(dropSpace cs).isEmpty⟩
    | o :: opens =>
      match o, dropSpace cs with
      | .array items, ',' :: rest => .ok (.value (.array (t :: items) :: opens), rest)
      | .array _, ']' :: rest => .ok (.after (o.close none t) opens, rest)
      | .object members k, ',' :: rest => .ok (.key ((k, t) :: members) opens, rest)
      | .object _ _, '\x7d' :: rest => .ok (.after (o.close none t) opens, rest)
      | _, rest =>
        let b := Break.both (faultAt rest)
        .error (stopIn b (o.close (some b) t) opens)

/-- Reads round after round. -/
def readFrom : Nat → Place → List Char → Source
  | 0, _, _ => ⟨.broken (.both .cutShort), false⟩
  | fuel + 1, place, cs =>
    match place.step cs with
    | .error source => source
    | .ok (place, rest) => readFrom fuel place rest

/-- Reads the document that a text holds. -/
def Source.read (text : String) : Source := readFrom (text.length + 2) (.value []) text.toList

end CodeIdioms.Document
