/-!
# Doubles

Binary floating point with 53 significant bits, written out as sign, mantissa and exponent so
that every operation is "take the exact value, round it once":

* `Double.ofRatio` — the double nearest to a ratio of naturals, a tie going to the even mantissa;
* `Double.compare?` — order by exact value, undefined when a side is not a number;
* `add`, `mul`, `div`, `rem` — the exact result rounded, with the usual rules for signed zeros,
  infinities and not-a-number.
-/

namespace ChatFlow

/-- **A double.** `finite negative m e` is `± m · 2 ^ e`; zeros keep their sign. -/
inductive Double where
  /-- not a number -/
  | nan
  /-- an infinity -/
  | infinity (negative : Bool)
  /-- a signed multiple of a power of two -/
  | finite (negative : Bool) (mantissa : Nat) (exponent : Int)
  deriving DecidableEq, Repr, Inhabited

namespace Double

/-- The exponent of the smallest positive double. -/
def minExponent : Int := -1074

/-- The largest exponent of a 53-bit mantissa. -/
def maxExponent : Int := 971

/-- A signed zero. -/
def zero (negative : Bool) : Double := .finite negative 0 minExponent

/-- The quotient rounded to the nearest natural, a half to the even one. -/
def roundDiv (num den : Nat) : Nat :=
  let quotient := num / den
  let rest := num % den
  if 2 * rest < den then quotient
  else if den < 2 * rest then quotient + 1
  else quotient + quotient % 2

/-- The ratio `num / den` divided by `2 ^ exponent`, as a ratio. -/
def scaled (num den : Nat) (exponent : Int) : Nat × Nat :=
  if 0 ≤ exponent then (num, den * Nat.pow 2 exponent.toNat)
  else (num * Nat.pow 2 (-exponent).toNat, den)

/-- A mantissa that rounding carried to `2 ^ 53` moves up one exponent; past the largest exponent
the result is an infinity. -/
def settle (negative : Bool) (mantissa : Nat) (exponent : Int) : Double :=
  let (mantissa, exponent) :=
    if mantissa = Nat.pow 2 53 then (Nat.pow 2 52, exponent + 1) else (mantissa, exponent)
  if maxExponent < exponent then .infinity negative else .finite negative mantissa exponent

/-- **Round to nearest.** The double nearest to `± num / den`. -/
def ofRatio (negative : Bool) (num den : Nat) : Double :=
  if num = 0 then zero negative
  else
    let rough : Int := max minExponent ((num.log2 : Int) - (den.log2 : Int) - 53)
    let (n, d) := scaled num den rough
    let exponent := if n / d < Nat.pow 2 53 then rough else rough + 1
    let (n, d) := scaled num den exponent
    settle negative (roundDiv n d) exponent

/-- The double nearest to `± mantissa · 2 ^ exponent`. -/
def ofDyadic (negative : Bool) (mantissa : Nat) (exponent : Int) : Double :=
  if 0 ≤ exponent then ofRatio negative (mantissa * Nat.pow 2 exponent.toNat) 1
  else ofRatio negative mantissa (Nat.pow 2 (-exponent).toNat)

/-- The double nearest to an integer, an infinity when it is too large. -/
def ofInt (n : Int) : Double := ofRatio (n < 0) n.natAbs 1

/-- **The double nearest to a decimal** `± m · 10 ^ e`. Exponents far outside the range are
settled without computing the power. -/
def ofDecimal (negative : Bool) (m : Nat) (e : Int) : Double :=
  if m = 0 then zero negative
  else if 310 < e + (m.log2 * 3 / 10 : Nat) then .infinity negative
  else if e + (m.log2 / 3 + 1 : Nat) < -330 then zero negative
  else if 0 ≤ e then ofRatio negative (m * Nat.pow 10 e.toNat) 1
  else ofRatio negative m (Nat.pow 10 (-e).toNat)

/-- A mantissa with its sign. -/
def signed (negative : Bool) (mantissa : Nat) : Int := if negative then -(mantissa : Int) else mantissa

/-- The signed mantissa of `± m · 2 ^ e` rewritten at a smaller exponent. -/
def signedAt (least : Int) (negative : Bool) (m : Nat) (e : Int) : Int :=
  signed negative (m * Nat.pow 2 (e - least).toNat)

/-! ## Classification -/

/-- Not a number. -/
def isNaN : Double → Bool
  | .nan => true
  | _ => false

/-- One of the two infinities. -/
def isInfinite : Double → Bool
  | .infinity _ => true
  | _ => false

/-- A zero of either sign. -/
def isZero : Double → Bool
  | .finite _ m _ => m = 0
  | _ => false

/-- The integer part, cutting toward zero; nothing for infinities and not-a-number. -/
def truncate? : Double → Option Int
  | .finite negative m e =>
    some (signed negative (if 0 ≤ e then m * Nat.pow 2 e.toNat else m / Nat.pow 2 (-e).toNat))
  | _ => none

/-- Finite and without a fraction. -/
def isInteger : Double → Bool
  | .finite _ m e => 0 ≤ e || m % Nat.pow 2 (-e).toNat = 0
  | _ => false

/-- The greatest integer not above; nothing for infinities and not-a-number. -/
def floor? (x : Double) : Option Int :=
  match x with
  | .finite negative m e =>
    let whole : Nat := if 0 ≤ e then m * Nat.pow 2 e.toNat else m / Nat.pow 2 (-e).toNat
    some (if negative then (if x.isInteger then -(whole : Int) else -(whole : Int) - 1) else whole)
  | _ => none

/-! ## Order -/

/-- **Order by exact value.** Nothing when a side is not a number. -/
def compare? : Double → Double → Option Ordering
  | .nan, _ => none
  | _, .nan => none
  | .infinity a, .infinity b => some (compare b.toNat a.toNat)
  | .infinity a, .finite .. => some (if a then .lt else .gt)
  | .finite .., .infinity b => some (if b then .gt else .lt)
  | .finite s₁ m₁ e₁, .finite s₂ m₂ e₂ =>
    let low := min e₁ e₂
    some (compare (signedAt low s₁ m₁ e₁) (signedAt low s₂ m₂ e₂))

/-- Order of a double and an integer by exact value. -/
def compareInt? : Double → Int → Option Ordering
  | .nan, _ => none
  | .infinity negative, _ => some (if negative then .lt else .gt)
  | .finite s m e, n =>
    let low := min e 0
    some (compare (signedAt low s m e) (n * Nat.pow 2 (0 - low).toNat))

/-! ## Arithmetic -/

/-- The opposite sign. -/
def neg : Double → Double
  | .nan => .nan
  | .infinity negative => .infinity !negative
  | .finite negative m e => .finite (!negative) m e

/-- The positive sign. -/
def abs : Double → Double
  | .nan => .nan
  | .infinity _ => .infinity false
  | .finite _ m e => .finite false m e

/-- An exact sum `n · 2 ^ e`, rounded; a zero sum takes the given sign. -/
def ofSum (zeroNegative : Bool) (n : Int) (e : Int) : Double :=
  if n = 0 then zero zeroNegative else ofDyadic (n < 0) n.natAbs e

/-- **Sum.** Opposite infinities have none; an exact zero is negative only for two negative
zeros. -/
def add : Double → Double → Double
  | .nan, _ => .nan
  | _, .nan => .nan
  | .infinity a, .infinity b => if a = b then .infinity a else .nan
  | .infinity a, .finite .. => .infinity a
  | .finite .., .infinity b => .infinity b
  | .finite s₁ m₁ e₁, .finite s₂ m₂ e₂ =>
    let low := min e₁ e₂
    ofSum (s₁ && s₂) (signedAt low s₁ m₁ e₁ + signedAt low s₂ m₂ e₂) low

/-- Difference. -/
def sub (x y : Double) : Double := x.add y.neg

/-- **Product.** Zero times infinity is not a number. -/
def mul : Double → Double → Double
  | .nan, _ => .nan
  | _, .nan => .nan
  | .infinity a, .infinity b => .infinity (a != b)
  | .infinity a, .finite b m _ => if m = 0 then .nan else .infinity (a != b)
  | .finite a m _, .infinity b => if m = 0 then .nan else .infinity (a != b)
  | .finite s₁ m₁ e₁, .finite s₂ m₂ e₂ => ofDyadic (s₁ != s₂) (m₁ * m₂) (e₁ + e₂)

/-- **Quotient.** A zero divisor gives an infinity, or not-a-number for zero over zero. -/
def div : Double → Double → Double
  | .nan, _ => .nan
  | _, .nan => .nan
  | .infinity _, .infinity _ => .nan
  | .infinity a, .finite b _ _ => .infinity (a != b)
  | .finite a _ _, .infinity b => zero (a != b)
  | .finite s₁ m₁ e₁, .finite s₂ m₂ e₂ =>
    let negative := s₁ != s₂
    if m₂ = 0 then (if m₁ = 0 then .nan else .infinity negative)
    else
      let low := min e₁ e₂
      ofRatio negative (m₁ * Nat.pow 2 (e₁ - low).toNat) (m₂ * Nat.pow 2 (e₂ - low).toNat)

/-- **Remainder** of the division cut toward zero: exact, with the sign of the dividend. A zero
divisor or an infinite dividend has none; an infinite divisor leaves the dividend. -/
def rem : Double → Double → Double
  | .nan, _ => .nan
  | _, .nan => .nan
  | .infinity _, _ => .nan
  | .finite s m e, .infinity _ => .finite s m e
  | .finite s m₁ e₁, .finite _ m₂ e₂ =>
    if m₂ = 0 then .nan
    else
      let low := min e₁ e₂
      let dividend : Nat := m₁ * Nat.pow 2 (e₁ - low).toNat
      let divisor : Nat := m₂ * Nat.pow 2 (e₂ - low).toNat
      ofDyadic s (dividend % divisor) low

/-! ## The machine's doubles -/

/-- The machine double of the same value. -/
def toFloat : Double → Float
  | .nan => 0.0 / 0.0
  | .infinity negative => if negative then -1.0 / 0.0 else 1.0 / 0.0
  | .finite negative m e =>
    let bits : UInt64 :=
      if m < Nat.pow 2 52 then m.toUInt64
      else (((e + 1075).toNat * Nat.pow 2 52 : Nat) + (m - Nat.pow 2 52)).toUInt64
    Float.ofBits (if negative then bits ||| 0x8000000000000000 else bits)

/-- The value of a machine double. -/
def ofFloat (x : Float) : Double :=
  let bits : Nat := x.toBits.toNat
  let negative : Bool := Nat.pow 2 63 ≤ bits
  let biased : Nat := bits / Nat.pow 2 52 % Nat.pow 2 11
  let fraction : Nat := bits % Nat.pow 2 52
  if biased = 2047 then (if fraction = 0 then .infinity negative else .nan)
  else if biased = 0 then .finite negative fraction minExponent
  else .finite negative (fraction + Nat.pow 2 52) ((biased : Int) - 1075)

end Double

end ChatFlow
