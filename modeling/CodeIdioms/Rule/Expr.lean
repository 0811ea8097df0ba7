import CodeIdioms.Text.Ranges
import CodeIdioms.Text.Property.Word

/-! # Rule expressions

The expressions that detection rules denote: sets of characters, assertions about the neighbours
of a position, concatenation, ordered choice and counted repetition.  A rule is matched with
ordered choice, so the two sides of `alt` are tried in turn and `greedy` tells which of "once
more" and "enough" is tried first.

`Expr.cost` estimates the size of the compiled form of an expression in bytes; it is computed
without unfolding the repetitions, so it is cheap for rules that are themselves too large. -/

namespace CodeIdioms.Rule

open CodeIdioms.Text

/-- Whether a character can be part of a word. -/
def isWord (unicode : Bool) (c : Char) : Bool :=
  if unicode then wordRanges.hasChar c else c.isAlphanum || c == '_'

/-- The places in and around words. -/
inductive WordPlace where
  | edge
  | inside
  | start
  | stop
  | startHalf
  | stopHalf
deriving DecidableEq, Repr

/-- Assertions about a position between two characters. -/
inductive Look where
  | textStart
  | textEnd
  | lineStart
  | lineEnd
  | crlfLineStart
  | crlfLineEnd
  | word (unicode : Bool) (place : WordPlace)
deriving DecidableEq, Repr

/-- Whether a word place has a word character before it (`b`) and after it (`a`). -/
def WordPlace.holds (place : WordPlace) (b a : Bool) : Bool :=
  match place with
  | .edge => b != a
  | .inside => b == a
  | .start => !b && a
  | .stop => b && !a
  | .startHalf => !b
  | .stopHalf => !a

/-- Whether an assertion holds between the character before a position and the one after it. -/
def Look.holds (before after : Option Char) : Look → Bool
  | textStart => before.isNone
  | textEnd => after.isNone
  | lineStart => before.isNone || before == some '\n'
  | lineEnd => after.isNone || after == some '\n'
  | crlfLineStart =>
    before.isNone || before == some '\n' || (before == some '\r' && after != some '\n')
  | crlfLineEnd =>
    after.isNone || after == some '\r' || (after == some '\n' && before != some '\r')
  | word unicode place => place.holds (before.any (isWord unicode)) (after.any (isWord unicode))

/-- Rule expressions. -/
inductive Expr where
  | empty
  | chars (s : Ranges)
  | look (l : Look)
  | seq (a b : Expr)
  | alt (a b : Expr)
  | rep (e : Expr) (low : Nat) (high : Option Nat) (greedy : Bool)
deriving Inhabited, Repr

namespace Expr

/-- The concatenation of a list of expressions. -/
def concat : List Expr → Expr
  | [] => empty
  | [e] => e
  | e :: es => seq e (concat es)

/-- The ordered choice among a list of expressions. -/
def choice : List Expr → Expr
  | [] => empty
  | [e] => e
  | e :: es => alt e (choice es)

/-- The estimated size of a set of characters: ranges beyond ASCII take several bytes to match. -/
def setCost (s : Ranges) : Nat :=
  s.foldl (fun n r => n + if r.2 < 0x80 then 8 else 57) 32

/-- The estimated size in bytes of the compiled form. -/
def cost : Expr → Nat
  | empty => 32
  | chars s => setCost s
  | look _ => 32
  | seq a b => a.cost + b.cost
  | alt a b => a.cost + b.cost + 36
  | rep e low high _ =>
    match high with
    | none => (max low 1) * e.cost + 72
    | some h => low * e.cost + (h - low) * (e.cost + 40) + 32

end Expr

end CodeIdioms.Rule
