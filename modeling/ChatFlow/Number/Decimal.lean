import ChatFlow.Number.Double

/-!
# Decimal text of doubles

* `Double.shortest` — the fewest significant digits that still round to the double, the nearest
  such decimal;
* `Double.text` — those digits laid out as authored documents show them: positional from `1e-04`
  up to `1e+16`, otherwise with an exponent;
* `Double.fixedText` — a fixed number of places, exact halves to the even digit;
* `Double.roundedTo` — the double nearest to that many places.
-/

namespace ChatFlow

/-- The decimal digits of a natural, most significant first. -/
def natDigits (n : Nat) : List Char := Nat.toDigits 10 n

/-- The decimal text of an integer. -/
def intText (n : Int) : String :=
  if n < 0 then String.ofList ('-' :: natDigits n.natAbs) else String.ofList (natDigits n.natAbs)

namespace Double

/-- Whether `10 ^ p ≤ num / den`. -/
def reachesPower (num den : Nat) (p : Int) : Bool :=
  if 0 ≤ p then den * Nat.pow 10 p.toNat ≤ num else den ≤ num * Nat.pow 10 (-p).toNat

/-- The decimal exponent of the leading digit of a positive ratio, found beside its estimate from
the binary lengths. -/
def leadingExponent (num den : Nat) : Int :=
  let estimate : Int := ((num.log2 : Int) - (den.log2 : Int)) * 30103 / 100000
  if reachesPower num den (estimate + 1) then estimate + 1
  else if reachesPower num den estimate then estimate
  else estimate - 1

/-- The exact ratio `m · 2 ^ e`. -/
def ratio (m : Nat) (e : Int) : Nat × Nat :=
  if 0 ≤ e then (m * Nat.pow 2 e.toNat, 1) else (m, Nat.pow 2 (-e).toNat)

/-- The ends of the interval of reals that round to `m · 2 ^ e`, as numerators over the
denominator of `ratio m (e - 2)`. Below a power of two the lower gap is half as wide. -/
def roundingEnds (m : Nat) (e : Int) : Nat × Nat :=
  let below := if m = Nat.pow 2 52 && minExponent < e then 1 else 2
  (4 * m - below, 4 * m + 2)

/-- Whether the decimal `d · 10 ^ p` rounds to `m · 2 ^ e`: it lies between the ends, or on one
of them when `m` is even. -/
def readsBack (m : Nat) (e : Int) (d : Nat) (p : Int) : Bool :=
  let (low, high) := roundingEnds m e
  let unit := ratio 1 (e - 2)
  let side : Nat × Nat := if 0 ≤ p then (d * Nat.pow 10 p.toNat, 1) else (d, Nat.pow 10 (-p).toNat)
  let value := side.1 * unit.2
  let scale := unit.1 * side.2
  if m % 2 = 0 then low * scale ≤ value && value ≤ high * scale
  else low * scale < value && value < high * scale

/-- The nearer of the two neighbours of `num / den` on the grid `10 ^ p` that `ok` accepts; on
equal distance the even one. -/
def nearestOn (num den : Nat) (p : Int) (ok : Nat → Bool) : Option Nat :=
  let (n, d) :=
    if 0 ≤ p then (num, den * Nat.pow 10 p.toNat) else (num * Nat.pow 10 (-p).toNat, den)
  let down := n / d
  match ok down, ok (down + 1) with
  | true, true => some (roundDiv n d)
  | true, false => some down
  | false, true => some (down + 1)
  | false, false => none

/-- The first grid, from coarse to fine, with a decimal that reads back. -/
def shortestFrom (m : Nat) (e : Int) (top : Int) : Nat → Nat → Nat × Int
  | _, 0 => (m, e)
  | digits, fuel + 1 =>
    let p := top - digits + 1
    let (num, den) := ratio m e
    match nearestOn num den p (fun d => readsBack m e d p) with
    | some d => (d, p)
    | none => shortestFrom m e top (digits + 1) fuel

/-- Trailing zeros moved into the exponent. -/
def dropZeros : Nat → Nat → Int → Nat × Int
  | 0, d, p => (d, p)
  | fuel + 1, d, p => if d ≠ 0 && d % 10 = 0 then dropZeros fuel (d / 10) (p + 1) else (d, p)

/-- **Shortest decimal.** For `m · 2 ^ e` with `0 < m`, digits `d` and exponent `p` with
`d · 10 ^ p` the nearest of the shortest decimals that read back; seventeen digits always do. -/
def shortest (m : Nat) (e : Int) : Nat × Int :=
  let (num, den) := ratio m e
  let (d, p) := shortestFrom m e (leadingExponent num den) 1 17
  dropZeros 20 d p

/-- A run of zeros. -/
def zeros (n : Nat) : List Char := List.replicate n '0'

/-- The digits `d · 10 ^ p` in positional notation, with at least one place. -/
def positional (digits : List Char) (p : Int) : List Char :=
  if 0 ≤ p then digits ++ zeros p.toNat ++ ['.', '0']
  else
    let places := (-p).toNat
    if places < digits.length then
      digits.take (digits.length - places) ++ '.' :: digits.drop (digits.length - places)
    else '0' :: '.' :: (zeros (places - digits.length) ++ digits)

/-- The digits with an exponent of at least two figures. -/
def scientific (digits : List Char) (exponent : Int) : List Char :=
  let mantissa := match digits with
    | [] => []
    | [d] => [d]
    | d :: rest => d :: '.' :: rest
  let figures := natDigits exponent.natAbs
  let figures := if figures.length < 2 then '0' :: figures else figures
  mantissa ++ 'e' :: (if exponent < 0 then '-' else '+') :: figures

/-- The sign and digits of a finite double laid out. -/
def finiteText (negative : Bool) (m : Nat) (e : Int) : List Char :=
  let body :=
    if m = 0 then ['0', '.', '0']
    else
      let (d, p) := shortest m e
      let digits := natDigits d
      let exponent : Int := p + digits.length - 1
      if -4 ≤ exponent && exponent < 16 then positional digits p else scientific digits exponent
  if negative then '-' :: body else body

/-- **Authored text of a double**: shortest digits that read back, always with a point or an
exponent. -/
def text : Double → String
  | .nan => "nan"
  | .infinity negative => if negative then "-inf" else "inf"
  | .finite negative m e => String.ofList (finiteText negative m e)

/-- The value times `10 ^ places`, rounded to the nearest integer, a half to the even one. -/
def scaledPlaces (m : Nat) (e : Int) (places : Nat) : Nat :=
  let (num, den) := ratio m e
  roundDiv (num * Nat.pow 10 places) den

/-- **Fixed places.** The exact value rounded to that many places. -/
def fixedText (places : Nat) : Double → String
  | .nan => "nan"
  | .infinity negative => if negative then "-inf" else "inf"
  | .finite negative m e =>
    let digits := natDigits (scaledPlaces m e places)
    let digits := zeros (places + 1 - digits.length) ++ digits
    let whole := digits.take (digits.length - places)
    let part := digits.drop (digits.length - places)
    String.ofList ((if negative then ['-'] else []) ++ whole ++ '.' :: part)

/-- **Rounded to places.** The double nearest to the value rounded to that many places. -/
def roundedTo (places : Nat) : Double → Double
  | .finite negative m e => ofDecimal negative (scaledPlaces m e places) (-places)
  | x => x

end Double

end ChatFlow
