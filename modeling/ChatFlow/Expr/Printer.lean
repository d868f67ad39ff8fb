import ChatFlow.Expr.Tree

/-!
# Printing expressions

The tokens of a tree with no more parentheses than it takes: a tree stands between parentheses
exactly where it is looser than its place asks.

* The levels, loose to tight: `||`, `&&`, comparisons, sums, products, operators before one operand,
  and operands that are complete by themselves.
* A left operand may be as loose as its operator, a right operand must be tighter.
* Behind `!` stands anything as tight as an operator before an operand, behind `-` only an operand.
* Between the parentheses of a call, and at the top, anything may stand.
-/

namespace ChatFlow.Expr

/-- **The level of an operator** between two operands, looser ones first. -/
def BinaryOp.level : BinaryOp → Nat
  | .or => 0
  | .and => 1
  | .eq | .ne | .gt | .lt | .ge | .le => 2
  | .add | .sub => 3
  | .mul | .div | .rem => 4

/-- The level of operators before one operand. -/
def unaryLevel : Nat := 5

/-- The level of an operand that is complete by itself. -/
def primaryLevel : Nat := 6

/-- **How tight a tree is.** -/
def Tree.level : Tree → Nat
  | .literal _ | .name _ | .call _ _ => primaryLevel
  | .unary _ _ => unaryLevel
  | .binary op _ _ => op.level

/-- The token of an operator before its operand. -/
def UnaryOp.token : UnaryOp → Token
  | .not => .bang
  | .neg => .op .sub

/-- How tight the operand of an operator before it has to be. -/
def UnaryOp.operandLevel : UnaryOp → Nat
  | .not => unaryLevel
  | .neg => primaryLevel

/-- Tokens of a level in a place that asks for one: between parentheses if they are looser. -/
def enclose (asked level : Nat) (tokens : List Token) : List Token :=
  if level < asked then .lparen :: tokens ++ [.rparen] else tokens

/-- **The tokens of a tree.** -/
def Tree.print : Tree → List Token
  | .literal l => [.literal l]
  | .name x => [.ident x]
  | .call f arg => .ident f.name :: .lparen :: arg.print ++ [.rparen]
  | .unary op operand => op.token :: enclose op.operandLevel operand.level operand.print
  | .binary op left right =>
    enclose op.level left.level left.print ++
      .op op :: enclose (op.level + 1) right.level right.print

/-- The tokens of a tree in a place that asks for a level. -/
def Tree.printAt (asked : Nat) (t : Tree) : List Token := enclose asked t.level t.print

theorem Tree.printAt_of_le {asked : Nat} {t : Tree} (h : asked ≤ t.level) :
    t.printAt asked = t.print := by
  rw [printAt, enclose, if_neg (Nat.not_lt.mpr h)]

theorem Tree.printAt_of_lt {asked : Nat} {t : Tree} (h : t.level < asked) :
    t.printAt asked = .lparen :: t.print ++ [.rparen] := by
  rw [printAt, enclose, if_pos h]

/-- Places of two levels want the same tokens unless the tree lies between them. -/
theorem Tree.printAt_succ {asked : Nat} {t : Tree} (h : t.level ≠ asked) :
    t.printAt asked = t.printAt (asked + 1) := by
  rcases Nat.lt_or_ge t.level asked with hlt | hge
  · rw [printAt_of_lt hlt, printAt_of_lt (Nat.lt_succ_of_lt hlt)]
  · rw [printAt_of_le hge, printAt_of_le (by omega)]

theorem BinaryOp.level_le (o : BinaryOp) : o.level ≤ 4 := by
  cases o <;> decide

theorem Tree.level_le (t : Tree) : t.level ≤ primaryLevel := by
  cases t with
  | binary op _ _ => exact Nat.le_trans op.level_le (by decide)
  | unary _ _ => exact Nat.le_succ unaryLevel
  | _ => exact Nat.le_refl primaryLevel

end ChatFlow.Expr
