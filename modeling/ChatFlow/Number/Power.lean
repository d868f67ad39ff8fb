import ChatFlow.Number.Basic

/-!
# Powers

A number to the power of another, in doubles.
-/

namespace ChatFlow

/-- **Power of doubles.** One that is too large counts as positive infinity, whatever its sign;
zero has no negative power, and a negative number no broken one. -/
def Double.power (x y : Double) : Double :=
  let result := Double.ofFloat (Float.pow x.toFloat y.toFloat)
  match x, y, result with
  | .finite .., .finite .., .infinity _ => if x.isZero then .nan else .infinity false
  | _, _, result => result

/-- Power of numbers; one beyond the range of doubles makes it infinite. -/
def Number.power (a b : Number) : Number :=
  match a.toDouble, b.toDouble with
  | .ok x, .ok y => .double (x.power y)
  | _, _ => Number.infinity

end ChatFlow
