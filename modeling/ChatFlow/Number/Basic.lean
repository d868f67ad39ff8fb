import ChatFlow.Number.Decimal
import ChatFlow.Fault

/-!
# Numbers

A number is an integer of any size or a double. Integers stay exact with each other; beside a
double they become doubles, and an integer beyond the range of doubles is a fault there.

* `Number.compare?`, `Number.equal` — by exact value, also between an integer and a double;
* `add`, `sub`, `mul`, `div`, `rem` — exact on integers except the quotient, which is the double
  nearest to the exact ratio;
* `Number.narrow`, `Number.tidy` — whole doubles back to integers.
-/

namespace ChatFlow

/-- **A number.** -/
inductive Number where
  /-- an integer of any size -/
  | int (value : Int)
  /-- a double -/
  | double (value : Double)
  deriving DecidableEq, Repr, Inhabited

namespace Number

/-- Not a number. -/
def nan : Number := .double .nan

/-- Positive infinity. -/
def infinity : Number := .double (.infinity false)

/-- Negative infinity. -/
def negInfinity : Number := .double (.infinity true)

/-- Whether this is the double that is not a number. -/
def isNaN : Number → Bool
  | .int _ => false
  | .double x => x.isNaN

/-- An integer as a double. -/
def doubleOfInt (n : Int) : Except Fault Double :=
  match Double.ofInt n with
  | .finite s m e => .ok (.finite s m e)
  | _ => .error .doubleRange

/-- The number as a double. -/
def toDouble : Number → Except Fault Double
  | .int n => doubleOfInt n
  | .double x => .ok x

/-- Whether it is an infinity; asked of an integer, it must fit a double. -/
def isInfinite : Number → Except Fault Bool
  | .int n => (doubleOfInt n).map fun _ => false
  | .double x => .ok x.isInfinite

/-! ## Order -/

/-- **Order by exact value**; nothing when a side is not a number. -/
def compare? : Number → Number → Option Ordering
  | .int a, .int b => some (compare a b)
  | .int a, .double y => (y.compareInt? a).map Ordering.swap
  | .double x, .int b => x.compareInt? b
  | .double x, .double y => x.compare? y

/-- Equality by exact value. -/
def equal (a b : Number) : Bool := a.compare? b == some .eq

/-- Strictly below. -/
def less (a b : Number) : Bool := a.compare? b == some .lt

/-- Strictly above. -/
def greater (a b : Number) : Bool := a.compare? b == some .gt

/-- At most. -/
def atMost (a b : Number) : Bool := a.less b || a.equal b

/-- At least. -/
def atLeast (a b : Number) : Bool := a.greater b || a.equal b

/-- Whether it equals zero. -/
def isZero : Number → Bool
  | .int n => n = 0
  | .double x => x.isZero

/-- **Truth of a number**: neither zero nor not-a-number. A nonzero integer is asked for its
double, so it must fit one. -/
def truthy : Number → Except Fault Bool
  | .int n => if n = 0 then .ok false else (doubleOfInt n).map fun _ => true
  | .double x => .ok (!x.isZero && !x.isNaN)

/-! ## Arithmetic -/

/-- The opposite number. -/
def neg : Number → Number
  | .int n => .int (-n)
  | .double x => .double x.neg

/-- The size without the sign. -/
def abs : Number → Number
  | .int n => .int n.natAbs
  | .double x => .double x.abs

/-- An operation that is exact on integers and done in doubles otherwise. -/
def combine (onInts : Int → Int → Int) (onDoubles : Double → Double → Double)
    (a b : Number) : Except Fault Number :=
  match a, b with
  | .int m, .int n => .ok (.int (onInts m n))
  | a, b => do
    let x ← a.toDouble
    let y ← b.toDouble
    return .double (onDoubles x y)

/-- Sum. -/
def add : Number → Number → Except Fault Number := combine (· + ·) Double.add

/-- Difference. -/
def sub : Number → Number → Except Fault Number := combine (· - ·) Double.sub

/-- Product. -/
def mul : Number → Number → Except Fault Number := combine (· * ·) Double.mul

/-- **Quotient** by a nonzero number: of two integers the double nearest to the exact ratio. -/
def div (a b : Number) : Except Fault Number :=
  match a, b with
  | .int m, .int n =>
    match Double.ofRatio (decide (m < 0) != decide (n < 0)) m.natAbs n.natAbs with
    | .infinity _ => .error .quotientRange
    | x => .ok (.double x)
  | a, b => do
    let x ← a.toDouble
    let y ← b.toDouble
    return .double (x.div y)

/-- Remainder of the division cut toward zero, in doubles. -/
def rem (a b : Number) : Except Fault Double := do
  let x ← a.toDouble
  let y ← b.toDouble
  return x.rem y

/-! ## Whole doubles -/

/-- **Narrowing.** A whole double below `2 ^ 53` in size becomes an integer. -/
def narrow : Number → Number
  | .double x =>
    match x.truncate? with
    | some n => if x.isInteger && n.natAbs < Nat.pow 2 53 then .int n else .double x
    | none => .double x
  | n => n

/-- **Tidying.** A whole double becomes an integer; any other is rounded to two places. -/
def tidy : Number → Number
  | .double x =>
    match x.truncate? with
    | some n => if x.isInteger then .int n else .double (x.roundedTo 2)
    | none => .double x
  | n => n

/-- The integer part; infinities and not-a-number have none. -/
def toInteger : Number → Except Fault Int
  | .int n => .ok n
  | .double x =>
    match x.truncate? with
    | some n => .ok n
    | none => .error (if x.isNaN then .nanToInteger else .infinityToInteger)

/-- The most digits of an integer that is read from or written to text. -/
def digitLimit : Nat := 4300

/-- The decimal text of an integer within the digit limit. -/
def intText? (n : Int) : Except Fault String :=
  if n.natAbs < Nat.pow 10 digitLimit then .ok (intText n) else .error .digitLimit

end Number

end ChatFlow
