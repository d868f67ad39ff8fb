import ChatFlow.Number.Basic
import ChatFlow.Number.Numeral
import ChatFlow.Json.Reader
import ChatFlow.Text.Search
import ChatFlow.Value.Basic

/-!
# Plain scalars

What a scalar without quotes stands for in a YAML 1.1 document.

* Nothing: blank text, a tilde, and the words for null.
* Truth values: the words true, yes and on, false, no and off, in lower, upper or title case.
* Integers: decimal, binary, octal, hexadecimal and in groups of sixty; underscores are passed over.
* Doubles: with a point, and an exponent with a sign if any.
* Any other scalar is text.
-/

namespace ChatFlow.Yaml

/-- Words for nothing. -/
def nullWords : List String := ["", "~", "null", "Null", "NULL"]

/-- Words for true. -/
def trueWords : List String := ["yes", "Yes", "YES", "true", "True", "TRUE", "on", "On", "ON"]

/-- Words for false. -/
def falseWords : List String := ["no", "No", "NO", "false", "False", "FALSE", "off", "Off", "OFF"]

/-- Digits of a base and underscores. -/
def isDigitOf (base : Nat) (c : Char) : Bool :=
  c = '_' || (match Json.hexValue? c with
    | some n => decide (n < base)
    | none => false)

/-- The natural that digits of a base spell; underscores are passed over. -/
def digitsIn (base : Nat) (s : List Char) : Nat :=
  s.foldl (fun n c => if c = '_' then n else n * base + (Json.hexValue? c).getD 0) 0

/-- A text of digits of a base, as its natural. -/
def naturalIn? (base : Nat) (s : List Char) : Option Nat :=
  if s.any (· ≠ '_') && s.all (isDigitOf base) then some (digitsIn base s) else none

/-- The value of one group of a number in groups of sixty. -/
def group? (s : List Char) : Option Nat :=
  match s with
  | [a] => if Json.isAsciiDigit a then some (Json.digitsValue [a]) else none
  | [a, b] =>
    if '0' ≤ a && a ≤ '5' && Json.isAsciiDigit b then some (Json.digitsValue [a, b]) else none
  | _ => none

/-- The value of the groups after the first, with the value of those before. -/
def groups? : Nat → List (List Char) → Option Nat
  | n, [] => some n
  | n, g :: rest => do groups? (n * 60 + (← group? g)) rest

/-- The natural of a text without sign. -/
def natural? (s : List Char) : Option Nat :=
  match s with
  | '0' :: 'b' :: rest => naturalIn? 2 rest
  | '0' :: 'x' :: rest => naturalIn? 16 rest
  | ['0'] => some 0
  | '0' :: rest => if rest.all (isDigitOf 8) then some (digitsIn 8 rest) else none
  | c :: _ =>
    if !Json.isAsciiDigit c then none
    else match splitOn [':'] s with
      | first :: rest =>
        if first.all (isDigitOf 10) then groups? (digitsIn 10 first) rest else none
      | [] => none
  | [] => none

/-- An integer. -/
def integer? (s : List Char) : Option Int :=
  let (negative, rest) := Numeral.sign s
  (natural? rest).map fun n => if negative then -(n : Int) else n

/-- An exponent, which has a sign, or the end of the text. -/
def exponent? (s : List Char) : Option Int :=
  match s with
  | [] => some 0
  | e :: signChar :: digits =>
    if (e = 'e' || e = 'E') && (signChar = '+' || signChar = '-') && !digits.isEmpty &&
        digits.all Json.isAsciiDigit then
      let n : Int := Json.digitsValue digits
      some (if signChar = '-' then -n else n)
    else none
  | _ => none

/-- The double of digits before a point and a text after it. -/
def decimal? (negative : Bool) (whole rest : List Char) : Option Double := do
  let places := rest.takeWhile (isDigitOf 10)
  let power ← exponent? (rest.dropWhile (isDigitOf 10))
  let digits := (whole ++ places).filter (· ≠ '_')
  let count := (places.filter (· ≠ '_')).length
  return Double.ofDecimal negative (Json.digitsValue digits) (power - count)

/-- The words for doubles, after their sign. -/
def wordDouble? (negative signed : Bool) (s : String) : Option Double :=
  if [".inf", ".Inf", ".INF"].contains s then some (.infinity negative)
  else if [".nan", ".NaN", ".NAN"].contains s && !signed then some .nan
  else none

/-- A double of digits: a point needs a digit before it, or else one after it and no sign. -/
def digitsDouble? (negative signed : Bool) (s : List Char) : Option Double :=
  let whole := s.takeWhile (isDigitOf 10)
  match s.dropWhile (isDigitOf 10), whole.head? with
  | '.' :: rest, some c => if c = '_' then none else decimal? negative whole rest
  | '.' :: d :: rest, none =>
    if !signed && Json.isAsciiDigit d then decimal? negative [] (d :: rest) else none
  | _, _ => none

/-- A double. -/
def double? (s : List Char) : Option Double :=
  let (negative, rest) := Numeral.sign s
  let signed := rest.length < s.length
  (wordDouble? negative signed (String.ofList rest)).or (digitsDouble? negative signed rest)

/-- **What a plain scalar stands for.** -/
def resolve (s : String) : Value :=
  if nullWords.contains s then .null
  else if trueWords.contains s then .bool true
  else if falseWords.contains s then .bool false
  else match integer? s.toList, double? s.toList with
    | some n, _ => .int n
    | none, some x => .double x
    | none, none => .text s

end ChatFlow.Yaml
