import ChatFlow.Text.Class

/-!
# Quoted text

Text and bytes between quotes, with what cannot be shown written as an escape. The quote is a
single one unless the text holds single quotes and no double ones.
-/

namespace ChatFlow

/-- A hexadecimal digit. -/
def hexDigit (n : Nat) : Char :=
  if n < 10 then Char.ofNat (48 + n) else Char.ofNat (87 + n)

/-- The lowest `width` hexadecimal digits of a number. -/
def hexDigits : Nat → Nat → List Char
  | 0, _ => []
  | width + 1, n => hexDigits width (n / 16) ++ [hexDigit (n % 16)]

/-- The quote for a text that holds these quotes. -/
def chooseQuote (single double : Bool) : Char := if single && !double then '"' else '\''

/-- A control character with a short escape. -/
def shortEscape? (c : Char) : Option Char :=
  if c = '\n' then some 'n' else if c = '\r' then some 'r' else if c = '\t' then some 't' else none

/-- One character inside quotes. -/
def quoteChar (quote c : Char) : List Char :=
  if c = quote || c = '\\' then ['\\', c]
  else match shortEscape? c with
    | some e => ['\\', e]
    | none =>
      if isPrintable c then [c]
      else if c.toNat < 0x100 then '\\' :: 'x' :: hexDigits 2 c.toNat
      else if c.toNat < 0x10000 then '\\' :: 'u' :: hexDigits 4 c.toNat
      else '\\' :: 'U' :: hexDigits 8 c.toNat

/-- **Quoted text.** -/
def quoteText (s : List Char) : List Char :=
  let quote := chooseQuote (s.contains '\'') (s.contains '"')
  quote :: s.flatMap (quoteChar quote) ++ [quote]

/-- One byte inside quotes. -/
def quoteByte (quote : Char) (b : UInt8) : List Char :=
  let c := Char.ofNat b.toNat
  if c = quote || c = '\\' then ['\\', c]
  else match shortEscape? c with
    | some e => ['\\', e]
    | none => if 32 ≤ b && b < 127 then [c] else '\\' :: 'x' :: hexDigits 2 b.toNat

/-- **Quoted bytes**, marked by a leading letter. -/
def quoteBytes (data : List UInt8) : List Char :=
  let quote := chooseQuote (data.contains 39) (data.contains 34)
  'b' :: quote :: data.flatMap (quoteByte quote) ++ [quote]

end ChatFlow
