import ChatFlow.Clock.Moment
import ChatFlow.Text.Utf8

/-!
# Reading moments

`Moment.ofIso?` reads a date with an optional time and offset. Dates are written with or without
dashes, by month and day or by week; any one character may stand before the time. Positions count
the bytes of the text, so the character before the time may be a long one.
-/

namespace ChatFlow

namespace Iso

/-- The byte at a position, zero past the end. -/
def byteAt (s : List UInt8) (i : Nat) : UInt8 := s.getD i 0

/-- Whether a byte is a digit. -/
def isDigitByte (b : UInt8) : Bool := 48 ≤ b && b ≤ 57

/-- The value of exactly so many digits, and the rest. -/
def digits? : Nat → Nat → List UInt8 → Option (Nat × List UInt8)
  | 0, n, s => some (n, s)
  | count + 1, n, b :: s => if isDigitByte b then digits? count (n * 10 + (b.toNat - 48)) s else none
  | _ + 1, _, [] => none

/-- Where the date ends and one character before the time stands. -/
def separatorAt (s : List UInt8) : Option Nat :=
  let len := s.length
  if len = 7 then some 7
  else if byteAt s 4 = 45 then
    if byteAt s 5 = 87 then
      if len < 8 then none
      else if 8 < len && byteAt s 8 = 45 then
        if len = 9 then none
        else if 10 < len && isDigitByte (byteAt s 10) then some 8
        else some 10
      else some 8
    else some 10
  else if byteAt s 4 = 87 then
    let pos := 7 + ((s.drop 7).takeWhile isDigitByte).length
    if pos < 9 then some pos
    else if pos % 2 = 0 then some 7
    else some 8
  else some 8

/-- The first Monday-based week of a year: the number of its Monday. The week is the one with the
year's first Thursday. -/
def weekOneMonday (year : Nat) : Int :=
  let first : Int := Moment.ordinalOf year 1 1
  let weekday := (first + 6) % 7
  let monday := first - weekday
  if 3 < weekday then monday + 7 else monday

/-- The date of a day of a week of a year. -/
def weekDate? (year week day : Nat) : Option (Nat × Nat × Nat) :=
  let first := (Moment.ordinalOf year 1 1 + 6) % 7
  let long := first = 3 || (first = 2 && Moment.isLeap year)
  if year < 1 || 9999 < year then none
  else if week = 0 || 53 < week || (week = 53 && !long) then none
  else if day = 0 || 7 < day then none
  else
    let n := weekOneMonday year + ((week - 1) * 7 + (day - 1) : Nat)
    if n < 1 then none else some (Moment.dateOf n.toNat)

/-- The date that takes up the given length at the head of a text. -/
def date? (length : Nat) (s : List UInt8) : Option (Nat × Nat × Nat) := do
  let (year, rest) ← digits? 4 0 s
  let dashed := byteAt rest 0 = 45
  let rest := if dashed then rest.tail else rest
  if byteAt rest 0 = 87 then
    let (week, rest) ← digits? 2 0 rest.tail
    if s.length - rest.length < length then
      if dashed && byteAt rest 0 ≠ 45 then none
      let rest := if dashed then rest.tail else rest
      let (day, _) ← digits? 1 0 rest
      weekDate? year week day
    else weekDate? year week 1
  else
    let (month, rest) ← digits? 2 0 rest
    if dashed && byteAt rest 0 ≠ 45 then none
    let rest := if dashed then rest.tail else rest
    let (day, rest) ← digits? 2 0 rest
    if s.length - rest.length = length then some (year, month, day) else none

/-- A time of day as read. -/
structure Clock where
  /-- hour, minute and second as far as they were written -/
  fields : List Nat
  /-- millionths of a second -/
  micro : Nat
  /-- whether all of the text was read -/
  complete : Bool

/-- The millionths of a second at the head of a text, `left` bytes before its end. -/
def fraction? (fields : List Nat) (left : Nat) (s : List UInt8) : Option Clock := do
  let count := min left 6
  let (n, rest) ← digits? count 0 s
  let micro := n * Nat.pow 10 (6 - count)
  return ⟨fields, micro, byteAt (rest.dropWhile isDigitByte) 0 = 0⟩

/-- Hour, minute and second in pairs of digits, with colons between all of them or none, and a
fraction after any of them. `left` counts the bytes before the end, `more` the fields still to
come. -/
def fields? : Nat → Bool → List Nat → Nat → List UInt8 → Option Clock
  | 0, _, fields, left, s => fraction? fields left s
  | more + 1, colons, fields, left, s => do
    let (n, rest) ← digits? 2 0 s
    let fields := fields ++ [n]
    let c := byteAt rest 0
    let colons := if more = 2 then c = 58 else colons
    if left ≤ 3 then return ⟨fields, 0, c = 0⟩
    if colons && c = 58 then fields? more colons fields (left - 3) rest.tail
    else if c = 46 || c = 44 then fraction? fields (left - 3) rest.tail
    else if !colons then fields? more colons fields (left - 2) rest
    else none

/-- A time that ends a number of bytes on. -/
def time? (left : Nat) (s : List UInt8) : Option Clock := fields? 3 false [] left s

/-- A field of a time, zero when it was not written. -/
def Clock.field (c : Clock) (i : Nat) : Nat := c.fields.getD i 0

/-- The time of day and whether an offset was written. -/
def zoned? (s : List UInt8) : Option (Clock × Bool) := do
  let isMark (b : UInt8) : Bool := b = 43 || b = 45 || b = 90
  let before := match s with
    | [] => 1
    | _ => (s.takeWhile fun b => !isMark b).length
  let clock ← time? before s
  match s.drop before with
  | [] => if clock.complete then some (clock, false) else none
  | mark :: rest =>
    if mark = 90 then (if byteAt rest 0 = 0 then some (clock, true) else none)
    else
      let offset ← time? rest.length rest
      let seconds := offset.field 0 * 3600 + offset.field 1 * 60 + offset.field 2
      if offset.complete && (seconds < 86400) then some (clock, true) else none

/-- Bytes of the character at the head of a text. -/
def charLength (b : UInt8) : Nat :=
  if b < 0x80 then 1 else if 0xF0 ≤ b then 4 else if 0xE0 ≤ b then 3 else 2

end Iso

/-- **A moment read from text**, and whether an offset was written with it. -/
def Moment.ofIso? (text : String) : Option (Moment × Bool) := do
  let s := Utf8.encode text.toList
  if s.length < 7 then none
  let stop ← Iso.separatorAt s
  let (year, month, day) ← Iso.date? stop s
  let (clock, zoned) ←
    if s.length ≤ stop then some ((⟨[], 0, true⟩ : Iso.Clock), false)
    else Iso.zoned? ((s.drop stop).drop (Iso.charLength (Iso.byteAt s stop)))
  let m : Moment := ⟨year, month, day, clock.field 0, clock.field 1, clock.field 2, clock.micro⟩
  if m.isValid then some (m, zoned) else none

end ChatFlow
