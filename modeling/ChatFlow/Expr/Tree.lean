import ChatFlow.Expr.Token

/-!
# Expression trees

The tree of an expression: literals and variables, calls of builtins, and operators before one operand
or between two.
-/

namespace ChatFlow.Expr

/-- **Functions an expression may call.** -/
inductive Builtin where
  /-- length of the text -/
  | len
  /-- number, zero where there is none -/
  | num
  /-- text -/
  | str
  /-- absolute value -/
  | abs
  deriving DecidableEq, Repr

/-- The name of a builtin. -/
def Builtin.name : Builtin → String
  | .len => "len"
  | .num => "num"
  | .str => "str"
  | .abs => "abs"

/-- The builtin of a name. -/
def Builtin.ofName? (s : String) : Option Builtin :=
  if s = "len" then some .len
  else if s = "num" then some .num
  else if s = "str" then some .str
  else if s = "abs" then some .abs
  else none

theorem Builtin.ofName?_name (b : Builtin) : Builtin.ofName? b.name = some b := by
  cases b <;> decide

/-- **Operators before one operand.** -/
inductive UnaryOp where
  /-- negation of truth -/
  | not
  /-- the opposite number -/
  | neg
  deriving DecidableEq, Repr

/-- The spelling of an operator before its operand. -/
def UnaryOp.symbol : UnaryOp → String
  | .not => "!"
  | .neg => "-"

/-- **An expression.** -/
inductive Tree where
  /-- a literal -/
  | literal (l : Literal)
  /-- the value of a variable -/
  | name (x : String)
  /-- a builtin of one argument -/
  | call (f : Builtin) (arg : Tree)
  /-- an operator before its operand -/
  | unary (op : UnaryOp) (operand : Tree)
  /-- an operator between its operands -/
  | binary (op : BinaryOp) (left right : Tree)
  deriving DecidableEq, Repr

/-- Number of nodes of a tree. -/
def Tree.size : Tree → Nat
  | .literal _ | .name _ => 1
  | .call _ arg => arg.size + 1
  | .unary _ operand => operand.size + 1
  | .binary _ left right => left.size + right.size + 1

end ChatFlow.Expr
