import ChatFlow.Number.Numeral
import ChatFlow.Value.Basic

/-!
# Tokens of expressions

`Expr.tokenize` cuts authored text into tokens and never fails: characters that begin no token are
skipped, a string without its closing quote ends with the text.

* A minus directly before a digit belongs to the numeral where no operand stands before it.
* Strings stand between any of three quotes; a backslash takes the next character as it is.
* `===` and `!==` read as `==` and `!=`.
-/

namespace ChatFlow.Expr

/-- **Operators between two operands.** -/
inductive BinaryOp where
  | or
  | and
  | eq
  | ne
  | gt
  | lt
  | ge
  | le
  | add
  | sub
  | mul
  | div
  | rem
  deriving DecidableEq, Repr

/-- The spelling of an operator. -/
def BinaryOp.symbol : BinaryOp → String
  | .or => "||"
  | .and => "&&"
  | .eq => "=="
  | .ne => "!="
  | .gt => ">"
  | .lt => "<"
  | .ge => ">="
  | .le => "<="
  | .add => "+"
  | .sub => "-"
  | .mul => "*"
  | .div => "/"
  | .rem => "%"

/-- **A value written in an expression.** -/
inductive Literal where
  /-- a numeral -/
  | number (n : Number)
  /-- a string -/
  | text (s : String)
  /-- one of the words for truth and falsehood -/
  | bool (b : Bool)
  deriving DecidableEq, Repr

/-- The value a literal stands for. -/
def Literal.value : Literal → Value
  | .number n => .number n
  | .text s => .text s
  | .bool b => .bool b

/-- **A token.** -/
inductive Token where
  /-- a literal -/
  | literal (l : Literal)
  /-- a name of a variable or builtin -/
  | ident (name : String)
  /-- an operator between operands; minus also stands before one -/
  | op (o : BinaryOp)
  /-- the operator of negation -/
  | bang
  /-- an opening parenthesis -/
  | lparen
  /-- a closing parenthesis -/
  | rparen
  /-- the end of the text -/
  | stop
  deriving DecidableEq, Repr

/-! ## Characters -/

/-- A character that may begin a name. -/
def isNameStart (c : Char) : Bool :=
  c = '_' || ('a' ≤ c && c ≤ 'z') || ('A' ≤ c && c ≤ 'Z')

/-- A character inside a name; points join the parts of a path. -/
def isNameChar (c : Char) : Bool := isNameStart c || isDigit c || c = '.'

/-- A character inside a numeral. -/
def isNumeralChar (c : Char) : Bool := isDigit c || c = '.'

/-- The three quotes of strings. -/
def isQuote (c : Char) : Bool := c = '"' || c = '\'' || c = '\x60'

/-! ## Pieces -/

/-- The content of a string whose opening quote has been read, and the text after its closing
quote. -/
def quoted (quote : Char) : List Char → List Char × List Char
  | [] => ([], [])
  | [c] => if c = quote || c = '\\' then ([], []) else ([c], [])
  | c :: d :: s =>
    if c = quote then ([], d :: s)
    else if c = '\\' then
      let (content, rest) := quoted quote s
      (d :: content, rest)
    else
      let (content, rest) := quoted quote (d :: s)
      (c :: content, rest)

theorem length_quoted (quote : Char) (s : List Char) : (quoted quote s).2.length ≤ s.length := by
  fun_induction quoted quote s <;> grind

/-- An operator at the head of a text, the longest first. -/
def operator? : List Char → Option (Token × List Char)
  | '=' :: '=' :: '=' :: s => some (.op .eq, s)
  | '!' :: '=' :: '=' :: s => some (.op .ne, s)
  | '=' :: '=' :: s => some (.op .eq, s)
  | '!' :: '=' :: s => some (.op .ne, s)
  | '>' :: '=' :: s => some (.op .ge, s)
  | '<' :: '=' :: s => some (.op .le, s)
  | '&' :: '&' :: s => some (.op .and, s)
  | '|' :: '|' :: s => some (.op .or, s)
  | '+' :: s => some (.op .add, s)
  | '-' :: s => some (.op .sub, s)
  | '*' :: s => some (.op .mul, s)
  | '/' :: s => some (.op .div, s)
  | '%' :: s => some (.op .rem, s)
  | '>' :: s => some (.op .gt, s)
  | '<' :: s => some (.op .lt, s)
  | '!' :: s => some (.bang, s)
  | _ => none

theorem length_operator? {s : List Char} {t : Token} {rest : List Char}
    (h : operator? s = some (t, rest)) : rest.length < s.length := by
  unfold operator? at h
  split at h <;> simp_all <;> grind

/-- The value of a numeral, zero when it does not begin with a decimal digit. -/
def numeralValue (s : List Char) : Number := (Number.leading? (String.ofList s)).getD (.int 0)

/-- The token of a word. -/
def wordToken (s : List Char) : Token :=
  if s = "true".toList then .literal (.bool true)
  else if s = "false".toList then .literal (.bool false)
  else .ident (String.ofList s)

/-- Whether a text goes on with a digit. -/
def digitNext : List Char → Bool
  | c :: _ => isDigit c
  | [] => false

/-- The tokens of a text. The flag says whether an operand is expected, so that a minus before a
digit is its sign. -/
def tokensFrom (operand : Bool) : List Char → List Token
  | [] => [.stop]
  | c :: s =>
    if isBlank c then tokensFrom operand s
    else if isDigit c || (c = '-' && digitNext s && operand) then
      .literal (.number (numeralValue (c :: s.takeWhile isNumeralChar))) ::
        tokensFrom false (s.dropWhile isNumeralChar)
    else if isQuote c then
      .literal (.text (String.ofList (quoted c s).1)) :: tokensFrom false (quoted c s).2
    else if c = '(' then .lparen :: tokensFrom true s
    else if c = ')' then .rparen :: tokensFrom false s
    else match _found : operator? (c :: s) with
      | some (t, rest) => t :: tokensFrom true rest
      | none =>
        if isNameStart c then
          wordToken (c :: s.takeWhile isNameChar) :: tokensFrom false (s.dropWhile isNameChar)
        else tokensFrom operand s
termination_by s => s.length
decreasing_by
  all_goals simp only [List.length_cons]
  · omega
  · have := (List.dropWhile_sublist isNumeralChar (l := s)).length_le; omega
  · have := length_quoted c s; omega
  · omega
  · omega
  · have := length_operator? _found; simp only [List.length_cons] at this; omega
  · have := (List.dropWhile_sublist isNameChar (l := s)).length_le; omega
  · omega

/-- **The tokens of a text**, closed by the end token. -/
def tokenize (source : String) : List Token := tokensFrom true source.toList

end ChatFlow.Expr
