import ChatFlow.Expr.Tree

/-!
# Parsing expressions

Every list of tokens has a tree. The parser has five levels of operators between two operands, each
with its own, `||` at the loosest and `*`, `/` and `%` at the tightest one; operators of one level
associate to the left. A missing closing parenthesis is tolerated, a token that begins no operand
reads as zero, and what follows the first complete expression is left alone. Each step of the parser
leaves no more tokens than it found, which is why it ends.
-/

namespace ChatFlow.Expr

/-- **A place in a list of tokens**: the tokens ahead and how many have been taken. Past the last
token stands the end token, which may be taken any number of times. -/
structure Cursor where
  /-- the tokens ahead -/
  ahead : List Token
  /-- how many tokens have been taken -/
  taken : Nat
  deriving DecidableEq, Repr

namespace Cursor

/-- The next token. -/
def peek (c : Cursor) : Token := c.ahead.headD .stop

/-- The place after the next token. -/
def next (c : Cursor) : Cursor := ⟨c.ahead.tail, c.taken + 1⟩

/-- The place after a closing parenthesis, if one is next. -/
def pastClosing (c : Cursor) : Cursor := if c.peek = .rparen then c.next else c

theorem next_le (c : Cursor) : c.next.ahead.length ≤ c.ahead.length := by
  simp [next]

theorem next_lt {c : Cursor} (h : c.peek ≠ .stop) : c.next.ahead.length < c.ahead.length := by
  obtain ⟨ahead, taken⟩ := c
  cases ahead with
  | nil => simp [peek] at h
  | cons t rest => simp [next]

theorem pastClosing_le (c : Cursor) : c.pastClosing.ahead.length ≤ c.ahead.length := by
  unfold pastClosing
  split
  · exact c.next_le
  · exact Nat.le_refl _

end Cursor

/-- A tree and the place after it, no further from the end than `c`. -/
abbrev Parsed (c : Cursor) :=
  { result : Tree × Cursor // result.2.ahead.length ≤ c.ahead.length }

/-- The operators that the parser takes at a level, the loosest level first. -/
def operatorsAt : Nat → List BinaryOp
  | 0 => [.or]
  | 1 => [.and]
  | 2 => [.eq, .ne, .gt, .lt, .ge, .le]
  | 3 => [.add, .sub]
  | 4 => [.mul, .div, .rem]
  | _ => []

/-- The binary operator of a level that comes next. -/
def opAt? (level : Nat) (c : Cursor) : Option BinaryOp :=
  match c.peek with
  | .op o => if o ∈ operatorsAt level then some o else none
  | _ => none

theorem peek_of_opAt? {level : Nat} {c : Cursor} {o : BinaryOp} (h : opAt? level c = some o) :
    c.peek = .op o := by
  unfold opAt? at h
  split at h <;> grind

/-- The builtin that the next two tokens call, its name having been taken. -/
def callAt? (name : String) (c : Cursor) : Option Builtin :=
  if c.peek = .lparen then Builtin.ofName? name else none

theorem peek_of_callAt? {name : String} {c : Cursor} {f : Builtin} (h : callAt? name c = some f) :
    c.peek = .lparen := by
  unfold callAt? at h
  split at h <;> grind

mutual

/-- An expression of a level or tighter; `height` counts the levels from it to the tightest. -/
def parseLevel (height : Nat) (c : Cursor) : Parsed c :=
  match height with
  | 0 => parseUnary c
  | height + 1 =>
    let ⟨(left, after), h⟩ := parseLevel height c
    have noLonger : after.ahead.length ≤ c.ahead.length := h
    let ⟨result, h'⟩ := climb height left after
    ⟨result, Nat.le_trans h' noLonger⟩
termination_by 10 * c.ahead.length + height + 3

/-- The operators of a level after a left operand, with their right operands. -/
def climb (height : Nat) (left : Tree) (c : Cursor) : Parsed c :=
  match found : opAt? (4 - height) c with
  | some o =>
    have step : c.next.ahead.length < c.ahead.length :=
      Cursor.next_lt (by rw [peek_of_opAt? found]; exact Token.noConfusion)
    let ⟨(right, after), h⟩ := parseLevel height c.next
    have shorter : after.ahead.length < c.ahead.length := Nat.lt_of_le_of_lt h step
    let ⟨result, h'⟩ := climb height (.binary o left right) after
    ⟨result, Nat.le_trans h' (Nat.le_of_lt shorter)⟩
  | none => ⟨(left, c), Nat.le_refl _⟩
termination_by 10 * c.ahead.length + height + 3

/-- An operand with the operators before it. -/
def parseUnary (c : Cursor) : Parsed c :=
  match found : c.peek with
  | .bang =>
    have step : c.next.ahead.length < c.ahead.length :=
      Cursor.next_lt (by rw [found]; exact Token.noConfusion)
    let ⟨(operand, after), h⟩ := parseUnary c.next
    ⟨(.unary .not operand, after), Nat.le_trans h (Nat.le_of_lt step)⟩
  | .op .sub =>
    have step : c.next.ahead.length < c.ahead.length :=
      Cursor.next_lt (by rw [found]; exact Token.noConfusion)
    let ⟨(operand, after), h⟩ := parsePrimary c.next
    ⟨(.unary .neg operand, after), Nat.le_trans h (Nat.le_of_lt step)⟩
  | _ => parsePrimary c
termination_by 10 * c.ahead.length + 2

/-- An operand. -/
def parsePrimary (c : Cursor) : Parsed c :=
  match found : c.peek with
  | .literal l => ⟨(.literal l, c.next), c.next_le⟩
  | .ident x =>
    match called : callAt? x c.next with
    | some f =>
      have step : c.next.next.ahead.length < c.next.ahead.length :=
        Cursor.next_lt (by rw [peek_of_callAt? called]; exact Token.noConfusion)
      have first := c.next_le
      let ⟨(arg, after), h⟩ := parseLevel 5 c.next.next
      ⟨(.call f arg, after.pastClosing), Nat.le_trans after.pastClosing_le
        (Nat.le_trans h (Nat.le_trans (Nat.le_of_lt step) first))⟩
    | none => ⟨(.name x, c.next), c.next_le⟩
  | .lparen =>
    have step : c.next.ahead.length < c.ahead.length :=
      Cursor.next_lt (by rw [found]; exact Token.noConfusion)
    let ⟨(inner, after), h⟩ := parseLevel 5 c.next
    ⟨(inner, after.pastClosing),
      Nat.le_trans after.pastClosing_le (Nat.le_trans h (Nat.le_of_lt step))⟩
  | _ => ⟨(.literal (.number (.int 0)), c.next), c.next_le⟩
termination_by 10 * c.ahead.length + 1

end

/-- **The tree of a list of tokens**, and the place after it. -/
def parseTokens (tokens : List Token) : Tree × Cursor := (parseLevel 5 ⟨tokens, 0⟩).1

/-- **The tree of a text.** -/
def parse (source : String) : Tree := (parseTokens (tokenize source)).1

end ChatFlow.Expr
