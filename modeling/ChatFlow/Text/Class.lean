import ChatFlow.Text.ClassTable

/-!
# Character classes

Which characters count as white space, digits, word characters or printable. The ASCII part of
each class is decided by comparison, the rest by the tables.
-/

namespace ChatFlow

/-- Membership in a list of inclusive ranges. -/
def inRanges (table : List (Nat × Nat)) (code : Nat) : Bool :=
  table.any fun range => range.1 ≤ code && code ≤ range.2

/-- **White space**: what trimming removes and the tokenizer skips. -/
def isBlank (c : Char) : Bool := inRanges CharTable.blank c.toNat

/-- **Digit** in the wide sense, superscripts included. -/
def isDigit (c : Char) : Bool :=
  if c.toNat < 128 then '0' ≤ c && c ≤ '9' else inRanges CharTable.digits c.toNat

/-- **The value of a decimal digit** of any script. -/
def decimalValue? (c : Char) : Option Nat :=
  if c.toNat < 128 then (if '0' ≤ c && c ≤ '9' then some (c.toNat - 48) else none)
  else
    (CharTable.decimalZeros.find? fun start => start ≤ c.toNat && c.toNat ≤ start + 9).map
      (c.toNat - ·)

/-- A decimal digit of any script. -/
def isDecimal (c : Char) : Bool := (decimalValue? c).isSome

/-- A letter or numeric character. -/
def isAlphanumeric (c : Char) : Bool :=
  if c.toNat < 128 then c.isAlphanum else inRanges CharTable.alphanumeric c.toNat

/-- A word character of a pattern. -/
def isWord (c : Char) : Bool := c = '_' || isAlphanumeric c

/-- A character that quoting leaves as it is. -/
def isPrintable (c : Char) : Bool :=
  if c.toNat < 128 then 32 ≤ c.toNat && c.toNat < 127 else inRanges CharTable.printable c.toNat

/-- White space removed from both ends. -/
def trimChars (s : List Char) : List Char :=
  ((s.dropWhile isBlank).reverse.dropWhile isBlank).reverse

/-- **Trimmed text.** -/
def trim (s : String) : String := String.ofList (trimChars s.toList)

end ChatFlow
