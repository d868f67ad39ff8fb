import ChatFlow.Number.Numeral

/-!
# Strict numerals

Texts that have to be numerals as a whole, white space around them aside. An underscore may stand
between two digits.

* `Numeral.wholeInt` — an integer, or a fault;
* `Numeral.wholeReal` — a double, also by a word for an infinity or for not-a-number, or a fault.
-/

namespace ChatFlow.Numeral

/-- The text without the underscores between its digits; other underscores are refused. `before`
is the character before. -/
def ungrouped? (before : Char) : List Char → Option (List Char)
  | [] => some []
  | '_' :: d :: rest =>
    if isDecimal before && isDecimal d then (ungrouped? d rest).map (d :: ·) else none
  | c :: rest => if c = '_' then none else (ungrouped? c rest).map (c :: ·)

/-- **The integer that a whole text spells.** -/
def wholeInt (s : String) : Except Fault Int :=
  let (negative, rest) := sign (trimChars s.toList)
  match ungrouped? ' ' rest with
  | some digits =>
    if digits.isEmpty || !digits.all isDecimal then .error (.notNumeral s)
    else integer negative digits
  | none => .error (.notNumeral s)

/-- The double of a word. -/
def wordReal? (negative : Bool) (s : List Char) : Option Double :=
  let word := String.ofList (s.map Char.toLower)
  if word = "inf" || word = "infinity" then some (.infinity negative)
  else if word = "nan" then some .nan
  else none

/-- The double of digits. -/
def digitsReal? (negative : Bool) (s : List Char) : Option Double := do
  match ← scan? negative (← ungrouped? ' ' s) with
  | (x, []) => some x
  | _ => none

/-- **The double that a whole text spells.** -/
def wholeReal (s : String) : Except Fault Double :=
  let (negative, rest) := sign (trimChars s.toList)
  match (wordReal? negative rest).or (digitsReal? negative rest) with
  | some x => .ok x
  | none => .error (.wrongValue ("could not convert string to float: '" ++ s ++ "'"))

end ChatFlow.Numeral
