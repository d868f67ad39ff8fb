import ChatFlow.Number.Decimal
import ChatFlow.Fault

/-!
# Moments

A reading of the clock without time zone, in the calendar that counts leap years back to year one.

* `Moment.ordinal` — days since the day before the first of January of year one;
* `Moment.weekday` — Sunday is 0;
* `Zone` — where the readings of a clock stand in time, and `Zone.universal` for one that shows the
  universal time;
* `Moment.timestamp` — seconds since the start of 1970, as a double;
* the texts of a moment: `dateText`, `timeText`, `shortTime`, `isoText`.
-/

namespace ChatFlow

/-- **A reading of the clock.** -/
structure Moment where
  /-- year, from 1 to 9999 -/
  year : Nat
  /-- month, from 1 -/
  month : Nat
  /-- day of the month, from 1 -/
  day : Nat
  /-- hour, below 24 -/
  hour : Nat
  /-- minute, below 60 -/
  minute : Nat
  /-- second, below 60 -/
  second : Nat
  /-- millionths of a second -/
  micro : Nat
  deriving DecidableEq, Repr, Inhabited

namespace Moment

/-! ## The calendar -/

/-- Leap years. -/
def isLeap (year : Nat) : Bool := year % 4 = 0 && (year % 100 ≠ 0 || year % 400 = 0)

/-- Days of a month. -/
def daysIn (year month : Nat) : Nat :=
  if month = 2 then (if isLeap year then 29 else 28)
  else if month = 4 || month = 6 || month = 9 || month = 11 then 30
  else 31

/-- Days of a year before a month. -/
def daysBefore (year : Nat) : Nat → Nat
  | 0 => 0
  | 1 => 0
  | month + 1 => daysBefore year month + daysIn year month

/-- The number of a day, the first of January of year one being 1. -/
def ordinalOf (year month day : Nat) : Nat :=
  let y := year - 1
  y * 365 + y / 4 - y / 100 + y / 400 + daysBefore year month + day

/-- The month and day of a day of a year, counted from 1. -/
def monthDay (year : Nat) : Nat → Nat → Nat → Nat × Nat
  | 0, month, day => (month, day)
  | fuel + 1, month, day =>
    if day ≤ daysIn year month then (month, day)
    else monthDay year fuel (month + 1) (day - daysIn year month)

/-- The date of a day number. -/
def dateOf (ordinal : Nat) : Nat × Nat × Nat :=
  let n := ordinal - 1
  let cycles := n / 146097
  let n := n % 146097
  let centuries := min (n / 36524) 3
  let n := n - centuries * 36524
  let fours := n / 1461
  let n := n % 1461
  let years := min (n / 365) 3
  let year := cycles * 400 + centuries * 100 + fours * 4 + years + 1
  let (month, day) := monthDay year 11 1 (n - years * 365 + 1)
  (year, month, day)

/-- Whether the fields make a moment. -/
def isValid (m : Moment) : Bool :=
  1 ≤ m.year && m.year ≤ 9999 && 1 ≤ m.month && m.month ≤ 12 && 1 ≤ m.day &&
    m.day ≤ daysIn m.year m.month && m.hour < 24 && m.minute < 60 && m.second < 60 &&
    m.micro < 1000000

/-- The number of the day. -/
def ordinal (m : Moment) : Nat := ordinalOf m.year m.month m.day

/-- **The day of the week**, Sunday being 0. -/
def weekday (m : Moment) : Nat := m.ordinal % 7

/-- Seconds since the start of 1970, whole, on a clock that shows the universal time. -/
def epochSeconds (m : Moment) : Int :=
  ((m.ordinal : Int) - 719163) * 86400 + (m.hour * 3600 + m.minute * 60 + m.second : Nat)

/-- Millionths of a second since the start of 1970. -/
def epochMicros (m : Moment) : Int := m.epochSeconds * 1000000 + m.micro

/-- Whether two moments fall on one day. -/
def sameDate (a b : Moment) : Bool := a.year = b.year && a.month = b.month && a.day = b.day

/-! ## Texts -/

/-- Digits with zeros in front up to a width. -/
def padded (width n : Nat) : List Char :=
  let digits := natDigits n
  List.replicate (width - digits.length) '0' ++ digits

/-- Year, month and day joined by dashes, the year in the given width. -/
def dateChars (yearWidth : Nat) (m : Moment) : List Char :=
  padded yearWidth m.year ++ '-' :: padded 2 m.month ++ '-' :: padded 2 m.day

/-- Hour, minute and second joined by colons. -/
def timeChars (m : Moment) : List Char :=
  padded 2 m.hour ++ ':' :: padded 2 m.minute ++ ':' :: padded 2 m.second

/-- The date, with four digits of the year. -/
def dateText (m : Moment) : String := String.ofList (m.dateChars 4)

/-- The time of day. -/
def timeText (m : Moment) : String := String.ofList m.timeChars

/-- Date and time; a short year stays short. -/
def dateTimeText (m : Moment) : String := String.ofList (m.dateChars 1 ++ ' ' :: m.timeChars)

/-- Hour and minute. -/
def shortTime (m : Moment) : String :=
  String.ofList (padded 2 m.hour ++ ':' :: padded 2 m.minute)

/-- Date and time joined by a `T`, with millionths when there are any. -/
def isoText (m : Moment) : String :=
  String.ofList (m.dateChars 4 ++ 'T' :: m.timeChars ++
    if m.micro = 0 then [] else '.' :: padded 6 m.micro)

end Moment

/-! ## Zones -/

/-- **The time zone of a machine**, as far as it places what the clock reads. Which one it is, and when
its clocks are put forward and back, comes from elsewhere. -/
structure Zone where
  /-- the whole seconds since the start of 1970 at which the clock reads so, unless the calendar has no
  room to look for them -/
  seconds? : Moment → Option Int
  /-- they are less than a day off those of the universal time -/
  near {m : Moment} {n : Int} : seconds? m = some n → (n - m.epochSeconds).natAbs < 86400

/-- **The universal time.** The first day of year one has no place: a day before it would be needed to
find it. -/
def Zone.universal : Zone where
  seconds? m := if m.ordinal ≤ 1 then none else some m.epochSeconds
  near {m n} h := by
    split at h
    · cases h
    · obtain rfl := Option.some.inj h
      rw [Int.sub_self]
      decide

/-- **Seconds since the start of 1970** with their fraction, where a zone places the moment. -/
def Moment.timestamp (zone : Zone) (m : Moment) : Except Fault Double :=
  match zone.seconds? m with
  | some n => .ok ((Double.ofInt n).add (Double.ofRatio false m.micro 1000000))
  | none => .error .conversion

end ChatFlow
