import ChatFlow.Expr.Parser
import ChatFlow.Value.Loose

/-!
# Evaluation of expressions

An expression reads a table of variables and nothing else. A missing variable is zero, division by
zero gives zero, `+` joins text when a side is text, and the results of `/` and `%` become integers
when they are whole. The only failures are those of numbers themselves: an integer beyond the range
of doubles where a double is needed, and one too long to be written.
-/

namespace ChatFlow.Expr

/-- A builtin applied to a value. -/
def Builtin.apply : Builtin → Value → Except Fault Value
  | .len, v => do return .int (units16 (← v.toText).toList)
  | .num, v => do return .number (if ← v.toNumber.truthy then v.toNumber else .int 0)
  | .str, v => do return .text (← v.toText)
  | .abs, v => .ok (.number v.toNumber.abs)

/-- An operator before its operand. -/
def UnaryOp.apply : UnaryOp → Value → Except Fault Value
  | .not, v => do return .bool (!(← v.truthy))
  | .neg, v => .ok (.number v.toNumber.neg)

/-- Sum of numbers, or joined text when a side is text. -/
def plus : Value → Value → Except Fault Value
  | .text a, b => do return .text (a ++ (← b.toText))
  | a, .text b => do return .text ((← a.toText) ++ b)
  | a, b => (a.toNumber.add b.toNumber).map .number

/-- Quotient, zero when the divisor is. -/
def quotient (x y : Number) : Except Fault Number :=
  if y.isZero then .ok (.int 0) else (x.div y).map Number.narrow

/-- Remainder, zero when the divisor is; that of an infinity is not a number. -/
def remainder (x y : Number) : Except Fault Number := do
  if y.isZero then return .int 0
  if ← x.isInfinite then return Number.nan
  return (Number.double (← x.rem y)).narrow

/-- An operator between evaluated operands. -/
def BinaryOp.apply : BinaryOp → Value → Value → Except Fault Value
  | .or, a, b => do return .bool ((← a.truthy) || (← b.truthy))
  | .and, a, b => do return .bool ((← a.truthy) && (← b.truthy))
  | .eq, a, b => do return .bool (← a.looseEquals b)
  | .ne, a, b => do return .bool (!(← a.looseEquals b))
  | .gt, a, b => .ok (.bool (a.toNumber.greater b.toNumber))
  | .lt, a, b => .ok (.bool (a.toNumber.less b.toNumber))
  | .ge, a, b => .ok (.bool (a.toNumber.atLeast b.toNumber))
  | .le, a, b => .ok (.bool (a.toNumber.atMost b.toNumber))
  | .add, a, b => plus a b
  | .sub, a, b => (a.toNumber.sub b.toNumber).map .number
  | .mul, a, b => (a.toNumber.mul b.toNumber).map .number
  | .div, a, b => (quotient a.toNumber b.toNumber).map .number
  | .rem, a, b => (remainder a.toNumber b.toNumber).map .number

/-- The value of a variable; nothing reads as zero. -/
def lookup (vars : Table Value) (x : String) : Value :=
  match vars.get? x with
  | none | some .null => .int 0
  | some v => v

/-- **The value of an expression.** The right side of `||` and `&&` is evaluated only when the left
one does not decide. -/
def Tree.evaluate (vars : Table Value) : Tree → Except Fault Value
  | .literal l => .ok l.value
  | .name x => .ok (lookup vars x)
  | .call f arg => do f.apply (← arg.evaluate vars)
  | .unary op operand => do op.apply (← operand.evaluate vars)
  | .binary .or left right => do
    if ← (← left.evaluate vars).truthy then return .bool true
    return .bool (← (← right.evaluate vars).truthy)
  | .binary .and left right => do
    if ← (← left.evaluate vars).truthy then return .bool (← (← right.evaluate vars).truthy)
    return .bool false
  | .binary op left right => do
    let a ← left.evaluate vars
    let b ← right.evaluate vars
    op.apply a b

/-- **The value of an expression** as it was written. -/
def evaluate (source : String) (vars : Table Value) : Except Fault Value :=
  (parse source).evaluate vars

/-- **Whether an expression holds**: whether its value is true. -/
def holds (source : String) (vars : Table Value) : Except Fault Bool := do
  (← evaluate source vars).truthy

end ChatFlow.Expr
