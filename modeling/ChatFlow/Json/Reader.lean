import ChatFlow.Value.Basic

/-!
# Reading JSON

`Json.read` reads one document. Integers and doubles are told apart by their spelling, the words
`NaN`, `Infinity` and `-Infinity` are numbers, and of equal keys the last value wins in the first
one's place. A document breaks the grammar or, rarely, holds an integer past the digit limit.

An escape may also spell half of a surrogate pair that stands alone. No text of characters holds
that, and no file can be written with it, so it is an outcome of its own: `Json.shown?` is how such
a document looks, with `U+FFFD` in the place of the half.
-/

namespace ChatFlow.Json

/-- **Why no value can be read** at the head of a text. -/
inductive Flaw where
  /-- the text breaks the grammar -/
  | malformed
  /-- an integer has more than 4300 digits -/
  | digitLimit
  deriving DecidableEq, Repr

/-- **Why a document cannot be read.** -/
inductive ReadFault where
  /-- the text breaks the grammar -/
  | malformed
  /-- an integer has more than 4300 digits -/
  | digitLimit
  /-- half of a surrogate pair stands alone; the document is shown with `U+FFFD` in its place -/
  | halfSurrogate (shown : Value)
  deriving Repr

/-- A document without a value cannot be read. -/
def Flaw.fault : Flaw → ReadFault
  | .malformed => .malformed
  | .digitLimit => .digitLimit

/-- White space between tokens. -/
def isSpace (c : Char) : Bool := c = ' ' || c = '\t' || c = '\n' || c = '\r'

/-- The text past white space. -/
def skip (s : List Char) : List Char := s.dropWhile isSpace

/-- The value of a hexadecimal digit. -/
def hexValue? (c : Char) : Option Nat :=
  if '0' ≤ c && c ≤ '9' then some (c.toNat - 48)
  else if 'a' ≤ c && c ≤ 'f' then some (c.toNat - 87)
  else if 'A' ≤ c && c ≤ 'F' then some (c.toNat - 55)
  else none

/-- Four hexadecimal digits at the head of a text. -/
def hex4? : List Char → Option (Nat × List Char)
  | a :: b :: c :: d :: rest => do
    let a ← hexValue? a
    let b ← hexValue? b
    let c ← hexValue? c
    let d ← hexValue? d
    return (((a * 16 + b) * 16 + c) * 16 + d, rest)
  | _ => none

/-- The first half of a surrogate pair. -/
def isHigh (unit : Nat) : Bool := 0xD800 ≤ unit && unit ≤ 0xDBFF

/-- The second half of a surrogate pair. -/
def isLow (unit : Nat) : Bool := 0xDC00 ≤ unit && unit ≤ 0xDFFF

/-- The number of the character that two halves make. -/
def pairNumber (high low : Nat) : Nat := 0x10000 + (high - 0xD800) * 1024 + (low - 0xDC00)

/-- The second half of a pair, where its escape is at the head of a text. -/
def lowUnit? : List Char → Option (Nat × List Char)
  | '\\' :: 'u' :: code => (hex4? code).filter fun unit => isLow unit.1
  | _ => none

/-- The character of a code unit; half of a pair has none of its own. -/
def unitChar (n : Nat) : Char := if isHigh n || isLow n then '\ufffd' else Char.ofNat n

/-- The character of an escape of code units, joined with a second one that completes a pair. -/
def escapedUnit? (s : List Char) : Option (Char × List Char) := do
  let (unit, rest) ← hex4? s
  if isHigh unit then
    match lowUnit? rest with
    | some (low, after) =>
      return (Char.ofNat (pairNumber unit low), after)
    | none => return (unitChar unit, rest)
  else return (unitChar unit, rest)

/-- **Whether an escape spells half of a surrogate pair alone**, anywhere in a text but in its first
`n` characters, which were looked at before. -/
def holdsHalf : Nat → List Char → Bool
  | _, [] => false
  | n + 1, _ :: rest => holdsHalf n rest
  | 0, '\\' :: rest =>
    match rest with
    | 'u' :: code =>
      match hex4? code with
      | some (unit, more) =>
        -- a pair takes up the two letters, the eight digits and the second backslash
        if isHigh unit && (lowUnit? more).isSome then holdsHalf 11 rest
        else isHigh unit || isLow unit || holdsHalf 1 rest
      | none => holdsHalf 1 rest
    | _ => holdsHalf 1 rest
  | 0, _ :: rest => holdsHalf 0 rest

/-- The character a single-letter escape stands for. -/
def simpleEscape? (c : Char) : Option Char :=
  match c with
  | '"' => some '"'
  | '\\' => some '\\'
  | '/' => some '/'
  | 'b' => some '\x08'
  | 'f' => some '\x0c'
  | 'n' => some '\n'
  | 'r' => some '\r'
  | 't' => some '\t'
  | _ => none

/-- The rest of a string up to its closing quote. -/
def stringBody : Nat → List Char → List Char → Except Flaw (String × List Char)
  | 0, _, _ => .error .malformed
  | fuel + 1, s, done =>
    match s with
    | '"' :: rest => .ok (String.ofList done.reverse, rest)
    | '\\' :: 'u' :: rest =>
      match escapedUnit? rest with
      | some (c, rest) => stringBody fuel rest (c :: done)
      | none => .error .malformed
    | '\\' :: c :: rest =>
      match simpleEscape? c with
      | some e => stringBody fuel rest (e :: done)
      | none => .error .malformed
    | c :: rest => if c.toNat < 32 then .error .malformed else stringBody fuel rest (c :: done)
    | [] => .error .malformed

/-- An ASCII digit. -/
def isAsciiDigit (c : Char) : Bool := '0' ≤ c && c ≤ '9'

/-- The natural that a run of ASCII digits spells. -/
def digitsValue (s : List Char) : Nat := s.foldl (fun n c => n * 10 + (c.toNat - 48)) 0

/-- The digits before the point, of which a zero in front is the only one. -/
def wholePart (s : List Char) : List Char :=
  match s with
  | '0' :: _ => ['0']
  | _ => s.takeWhile isAsciiDigit

/-- The fraction after a point, if digits follow it. -/
def fraction (s : List Char) : List Char × List Char :=
  match s with
  | '.' :: rest => if (rest.takeWhile isAsciiDigit).isEmpty then ([], s)
    else (rest.takeWhile isAsciiDigit, rest.dropWhile isAsciiDigit)
  | _ => ([], s)

/-- The exponent, if its digits are there. -/
def exponent (s : List Char) : Option Int × List Char :=
  let signedPart (negative : Bool) (rest : List Char) : Option Int × List Char :=
    let digits := rest.takeWhile isAsciiDigit
    if digits.isEmpty then (none, s)
    else
      let n : Int := digitsValue digits
      (some (if negative then -n else n), rest.dropWhile isAsciiDigit)
  match s with
  | e :: rest =>
    if e = 'e' || e = 'E' then
      match rest with
      | '-' :: more => signedPart true more
      | '+' :: more => signedPart false more
      | more => signedPart false more
    else (none, s)
  | [] => (none, s)

/-- A number whose sign has been read: an integer unless a fraction or exponent follows. -/
def number (negative : Bool) (s : List Char) : Except Flaw (Value × List Char) :=
  let whole := wholePart s
  if whole.isEmpty then .error .malformed
  else
    let (places, rest) := fraction (s.drop whole.length)
    let (power, rest) := exponent rest
    if places.isEmpty && power.isNone then
      if Number.digitLimit < whole.length then .error .digitLimit
      else
        let n : Int := digitsValue whole
        .ok (.int (if negative then -n else n), rest)
    else
      .ok (.double (Double.ofDecimal negative (digitsValue (whole ++ places))
        (power.getD 0 - places.length)), rest)

/-- The rest of the text after a word. -/
def word? (word s : List Char) : Option (List Char) :=
  if s.take word.length = word then some (s.drop word.length) else none

/-- A word that stands for a value. -/
def wordValue (s : List Char) : Except Flaw (Value × List Char) :=
  match word? "null".toList s with
  | some rest => .ok (.null, rest)
  | none => match word? "true".toList s with
    | some rest => .ok (.bool true, rest)
    | none => match word? "false".toList s with
      | some rest => .ok (.bool false, rest)
      | none => match word? "NaN".toList s with
        | some rest => .ok (.double .nan, rest)
        | none => match word? "Infinity".toList s with
          | some rest => .ok (.double (.infinity false), rest)
          | none => match word? "-Infinity".toList s with
            | some rest => .ok (.double (.infinity true), rest)
            | none => .error .malformed

mutual

/-- One value at the head of a text. -/
def value : Nat → List Char → Except Flaw (Value × List Char)
  | 0, _ => .error .malformed
  | fuel + 1, s =>
    match s with
    | '"' :: rest => do
      let (text, rest) ← stringBody (rest.length + 1) rest []
      return (.text text, rest)
    | '[' :: rest =>
      match skip rest with
      | ']' :: rest => .ok (.list [], rest)
      | rest => do
        let (items, rest) ← items fuel rest
        return (.list items, rest)
    | '\x7b' :: rest =>
      match skip rest with
      | '\x7d' :: rest => .ok (.object [], rest)
      | rest => do
        let (entries, rest) ← members fuel rest
        return (.object (Table.ofEntries entries), rest)
    | '-' :: c :: rest =>
      if isAsciiDigit c then number true (c :: rest) else wordValue s
    | c :: _ => if isAsciiDigit c then number false s else wordValue s
    | [] => .error .malformed

/-- The items of a list up to its closing bracket. -/
def items : Nat → List Char → Except Flaw (List Value × List Char)
  | 0, _ => .error .malformed
  | fuel + 1, s => do
    let (first, rest) ← value fuel s
    match skip rest with
    | ',' :: rest =>
      let (others, rest) ← items fuel (skip rest)
      return (first :: others, rest)
    | ']' :: rest => return ([first], rest)
    | _ => .error .malformed

/-- The members of an object up to its closing brace. -/
def members : Nat → List Char → Except Flaw (List (String × Value) × List Char)
  | 0, _ => .error .malformed
  | fuel + 1, s =>
    match s with
    | '"' :: rest => do
      let (key, rest) ← stringBody (rest.length + 1) rest []
      match skip rest with
      | ':' :: rest =>
        let (first, rest) ← value fuel (skip rest)
        match skip rest with
        | ',' :: rest =>
          let (others, rest) ← members fuel (skip rest)
          return ((key, first) :: others, rest)
        | '\x7d' :: rest => return ([(key, first)], rest)
        | _ => .error .malformed
      | _ => .error .malformed
    | _ => .error .malformed

end

/-- The document of a list of characters. -/
def readChars (s : List Char) : Except ReadFault Value :=
  match value (s.length + 1) (skip s) with
  | .ok (result, rest) =>
    if !(skip rest).isEmpty then .error .malformed
    else if holdsHalf 0 s then .error (.halfSurrogate result)
    else .ok result
  | .error flaw => .error flaw.fault

/-- **Read a document.** A byte order mark in text is malformed. -/
def read (s : String) : Except ReadFault Value := readChars s.toList

/-- **The document as it is shown**, if it has been read: halves of surrogate pairs as `U+FFFD`. -/
def shown? : Except ReadFault Value → Option Value
  | .ok v => some v
  | .error (.halfSurrogate v) => some v
  | .error _ => none

end ChatFlow.Json
