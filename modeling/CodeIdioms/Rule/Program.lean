import CodeIdioms.Rule.Expr

/-! # Compiled rules

A rule is compiled in two steps.  `Expr.core` unfolds counted repetition, so that "possibly" and
"once or more" remain as the only loops; `Core.code` then lays a core expression out as a block of
instructions that starts at a given index and continues at another.  A block has `Core.size`
instructions, so every target is known in advance and nothing is patched. -/

namespace CodeIdioms.Rule

open CodeIdioms.Text

/-- Expressions whose only repetitions are "possibly" and "once or more". -/
inductive Core where
  | empty
  | chars (s : Ranges)
  | look (l : Look)
  | seq (a b : Core)
  | alt (a b : Core)
  | opt (e : Core) (greedy : Bool)
  | plus (e : Core) (greedy : Bool)
deriving Inhabited, Repr

namespace Core

/-- `n` copies of an expression, followed by another. -/
def copies (e : Core) : Nat → Core → Core
  | 0, last => last
  | n + 1, last => seq e (copies e n last)

/-- At most `n` copies of an expression, each of them optional after the one before. -/
def atMost (e : Core) (greedy : Bool) : Nat → Core
  | 0 => empty
  | 1 => opt e greedy
  | n + 1 => opt (seq e (atMost e greedy n)) greedy

end Core

/-- The expression with its counted repetitions unfolded. -/
def Expr.core : Expr → Core
  | .empty => .empty
  | .chars s => .chars s
  | .look l => .look l
  | .seq a b => .seq a.core b.core
  | .alt a b => .alt a.core b.core
  | .rep e low high greedy =>
    match low, high with
    | 0, none => .opt (.plus e.core greedy) greedy
    | n + 1, none => .copies e.core n (.plus e.core greedy)
    | n, some m => .copies e.core n (.atMost e.core greedy (m - n))

/-- Instructions of a compiled rule. -/
inductive Instr where
  | accept
  | chars (s : Ranges) (next : Nat)
  | look (l : Look) (next : Nat)
  | jump (next : Nat)
  | split (first second : Nat)
deriving DecidableEq, Repr

/-- A branch that prefers `more` when greedy and `done` when lazy. -/
def Instr.branch (greedy : Bool) (more done : Nat) : Instr :=
  if greedy then split more done else split done more

namespace Core

/-- The number of instructions of an expression. -/
def size : Core → Nat
  | empty => 1
  | chars _ => 1
  | look _ => 1
  | seq a b => a.size + b.size
  | alt a b => 1 + a.size + b.size
  | opt e _ => 1 + e.size
  | plus e _ => e.size + 1

/-- The instructions of an expression, starting at index `start` and continuing at `next`. -/
def code (start next : Nat) : Core → List Instr
  | empty => [.jump next]
  | chars s => [.chars s next]
  | look l => [.look l next]
  | seq a b => a.code start (start + a.size) ++ b.code (start + a.size) next
  | alt a b => .split (start + 1) (start + 1 + a.size)
      :: (a.code (start + 1) next ++ b.code (start + 1 + a.size) next)
  | opt e greedy => .branch greedy (start + 1) next :: e.code (start + 1) next
  | plus e greedy => e.code start (start + e.size) ++ [.branch greedy start next]

/-- A block has as many instructions as its size says. -/
theorem length_code (e : Core) (start next : Nat) : (e.code start next).length = e.size := by
  induction e generalizing start next with
  | empty => rfl
  | chars s => rfl
  | look l => rfl
  | seq a b iha ihb => simp [code, size, iha, ihb]
  | alt a b iha ihb => simp only [code, size, List.length_cons, List.length_append, iha, ihb]; omega
  | opt e g ih => simp only [code, size, List.length_cons, ih]; omega
  | plus e g ih => simp [code, size, ih]

end Core

/-- A compiled rule: instructions, of which the first is the entry. -/
structure Program where
  instrs : Array Instr
deriving DecidableEq, Repr

/-- The program of a core expression: its block, followed by acceptance. -/
def Core.program (e : Core) : Program := ⟨(e.code 0 e.size ++ [Instr.accept]).toArray⟩

end CodeIdioms.Rule
