import ChatFlow.Number.Double

/-!
# Dice

The source of chance is a script of draws from zero up to one, begun again when it ends. Chance
thereby is data, and a run can be repeated.
-/

namespace ChatFlow

/-- **A source of chance.** -/
structure Dice where
  /-- the draws -/
  script : List Double
  /-- how many were taken -/
  drawn : Nat
  deriving Repr

namespace Dice

/-- The draw that comes next. -/
def peek (d : Dice) : Double := d.script.getD (d.drawn % d.script.length) (Double.ofInt 0)

/-- **One draw.** -/
def roll (d : Dice) : Double × Dice := (d.peek, { d with drawn := d.drawn + 1 })

/-- The whole part of a draw spread over a number of sides. -/
def scaled (draw : Double) (sides : Nat) : Nat :=
  (((draw.mul (Double.ofInt sides)).floor?).getD 0).toNat

/-- A die with sides from one up. -/
def die (d : Dice) (sides : Nat) : Nat × Dice :=
  let (draw, d) := d.roll
  (1 + scaled draw sides, d)

/-- One item of a list. -/
def choose {α : Type} (d : Dice) (items : List α) (default : α) : α × Dice :=
  let (draw, d) := d.roll
  (items.getD (scaled draw items.length) default, d)

end Dice

end ChatFlow
