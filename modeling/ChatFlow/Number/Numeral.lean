import ChatFlow.Number.Basic
import ChatFlow.Text.Class

/-!
# Numerals

Reading numbers from authored text, with the decimal digits of any script.

* `Numeral.scan?` — the longest unsigned decimal numeral at the head of a text: digits with an
  optional point, or a point with digits, then an exponent if its digits are there;
* `Number.ofText` — the number that a whole text spells: blank text is zero, text that is no
  numeral is not a number;
* `Number.leading?`, `Int.leading?` — the number or integer at the head of a text.
-/

namespace ChatFlow

namespace Numeral

/-- The natural that a run of decimal digits spells. -/
def digitsValue (s : List Char) : Nat :=
  s.foldl (fun n c => n * 10 + (decimalValue? c).getD 0) 0

/-- A sign at the head of a text: whether it is a minus, and the rest. -/
def sign : List Char → Bool × List Char
  | '-' :: rest => (true, rest)
  | '+' :: rest => (false, rest)
  | s => (false, s)

/-- An exponent at the head of a text, given back when no digit follows its mark. -/
def exponent (s : List Char) : Int × List Char :=
  match s with
  | e :: rest =>
    if e = 'e' || e = 'E' then
      let (negative, rest) := sign rest
      let digits := rest.takeWhile isDecimal
      if digits.isEmpty then (0, s)
      else
        let n : Int := digitsValue digits
        (if negative then -n else n, rest.dropWhile isDecimal)
    else (0, s)
  | [] => (0, s)

/-- The digits before and after the point of a numeral, and the rest. -/
def mantissa? (s : List Char) : Option (List Char × List Char × List Char) :=
  let whole := s.takeWhile isDecimal
  match s.dropWhile isDecimal with
  | '.' :: rest =>
    let places := rest.takeWhile isDecimal
    if whole.isEmpty && places.isEmpty then none
    else some (whole, places, rest.dropWhile isDecimal)
  | rest => if whole.isEmpty then none else some (whole, [], rest)

/-- **The longest numeral** at the head of a text, read with the given sign. -/
def scan? (negative : Bool) (s : List Char) : Option (Double × List Char) := do
  let (whole, places, rest) ← mantissa? s
  let (power, rest) := exponent rest
  return (Double.ofDecimal negative (digitsValue (whole ++ places)) (power - places.length), rest)

/-- The word for an unbounded number. -/
def infinityWord : List Char := "Infinity".toList

/-- An integer of the given sign and digits, within the digit limit. -/
def integer (negative : Bool) (digits : List Char) : Except Fault Int :=
  if Number.digitLimit < digits.length then .error .digitLimit
  else
    let n : Int := digitsValue digits
    .ok (if negative then -n else n)

/-- A signed number at the very head of a text, and the rest. -/
def signed? (s : List Char) : Option (Number × List Char) :=
  let (negative, rest) := sign s
  if rest.take 8 = infinityWord then
    some (if negative then Number.negInfinity else Number.infinity, rest.drop 8)
  else (scan? negative rest).map fun (x, rest) => (Number.narrow (.double x), rest)

end Numeral

namespace Number

/-- **The number a whole text spells**, white space around it aside. -/
def ofText (s : String) : Number :=
  let text := trimChars s.toList
  if text.isEmpty then .int 0
  else match Numeral.signed? text with
    | some (n, []) => n
    | _ => nan

/-- **The number at the head of a text** past white space. -/
def leading? (s : String) : Option Number :=
  (Numeral.signed? (s.toList.dropWhile isBlank)).map Prod.fst

/-- **The integer at the head of a text** past white space. -/
def leadingInt? (s : String) : Except Fault (Option Int) :=
  let (negative, rest) := Numeral.sign (s.toList.dropWhile isBlank)
  let digits := rest.takeWhile isDecimal
  if digits.isEmpty then .ok none else (Numeral.integer negative digits).map some

end Number

end ChatFlow
