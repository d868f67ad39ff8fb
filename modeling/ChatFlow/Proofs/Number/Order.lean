import ChatFlow.Proofs.Number.Rounding
import Mathlib.Order.WithBot

/-!
# The order of numbers

Numbers are compared by their exact values: rationals, and an infinity at each end.

* `Double.exactValue`, `Number.exactValue` — the exact value;
* `Double.compare_eq`, `Double.compareInt_eq` — **doubles are compared by it**, with each other and
  with integers;
* `Number.atMost_iff`, `Number.atLeast_iff`, `Number.less_iff`, `Number.greater_iff`,
  `Number.equal_iff` — and so are numbers;
* `Number.equal_comm`, `Number.equal_self` — **equality is symmetric**, and all but what is not a number
  equals itself.
-/

namespace ChatFlow

/-- **Exact values**: rationals, and an infinity at each end. -/
abbrev ExactValue : Type := WithBot (WithTop ℚ)

namespace ExactValue

/-- A rational as an exact value. -/
def ofRat (q : ℚ) : ExactValue := (q : WithTop ℚ)

theorem bot_lt_ofRat (q : ℚ) : ⊥ < ofRat q := WithBot.bot_lt_coe _

theorem ofRat_lt_top (q : ℚ) : ofRat q < ⊤ := WithBot.coe_lt_coe.mpr (WithTop.coe_lt_top q)

theorem strictMono_ofRat : StrictMono ofRat :=
  fun _ _ h => WithBot.coe_lt_coe.mpr (WithTop.coe_lt_coe.mpr h)

/-- Multiples of a power of two are compared like the integers they are multiples by. -/
theorem compare_ofRat (a b low : Int) :
    compare (ofRat (a * 2 ^ low)) (ofRat (b * 2 ^ low)) = compare a b := by
  have hscale : (0 : ℚ) < 2 ^ low := zpow_pos two_pos _
  have hmono : StrictMono fun n : Int => ofRat (n * 2 ^ low) := by
    intro m n hmn
    have hcast : (m : ℚ) < n := Int.cast_lt.mpr hmn
    exact strictMono_ofRat (mul_lt_mul_of_pos_right hcast hscale)
  rw [← cmp_eq_compare, ← cmp_eq_compare]
  exact hmono.cmp_map_eq a b

end ExactValue

namespace Double

open ExactValue

/-- **The exact value of a double**; zero for the one that is not a number. -/
def exactValue : Double → ExactValue
  | .nan => ofRat 0
  | .infinity negative => if negative then ⊥ else ⊤
  | .finite negative m e => ofRat (signed negative m * 2 ^ e)

theorem exactValue_finite (negative : Bool) (m : Nat) (e : Int) :
    (finite negative m e).exactValue = ofRat (signed negative m * 2 ^ e) := rfl

theorem signedAt_eq {low : Int} (negative : Bool) (m : Nat) {e : Int} (h : low ≤ e) :
    (signedAt low negative m e * 2 ^ low : ℚ) = signed negative m * 2 ^ e := by
  obtain ⟨k, rfl⟩ := Int.le.dest h
  have hscale : (2 : ℚ) ^ (low + k) = 2 ^ k * 2 ^ low := by
    rw [zpow_add₀ two_ne_zero, zpow_natCast, mul_comm]
  rw [hscale, ← mul_assoc, signedAt, add_sub_cancel_left]
  cases negative <;> simp [signed]

/-- An integer at a smaller exponent. -/
theorem shift_eq (n : Int) {low : Int} (h : low ≤ 0) :
    (((n * Nat.pow 2 (0 - low).toNat : Int) : ℚ) * 2 ^ low) = n := by
  obtain ⟨k, hk⟩ := Int.le.dest h
  obtain rfl : low = -(k : Int) := by omega
  have hpow : (2 : ℚ) ^ k ≠ 0 := pow_ne_zero k two_ne_zero
  rw [zpow_neg, zpow_natCast]
  simp [hpow]

/-- An infinity is beyond every other number, and the two are at opposite ends. -/
theorem compare_infinity (negative : Bool) (q : ℚ) :
    compare (infinity negative).exactValue (ofRat q) = if negative then .lt else .gt := by
  cases negative with
  | true => exact compare_lt_iff_lt.mpr (bot_lt_ofRat q)
  | false => exact compare_gt_iff_gt.mpr (ofRat_lt_top q)

/-- **Doubles are compared by their exact values.** -/
theorem compare_eq {x y : Double} (hx : x.isNaN = false) (hy : y.isNaN = false) :
    x.compare? y = some (compare x.exactValue y.exactValue) := by
  rcases x with _ | a | ⟨s, m, e⟩
  · cases hx
  · rcases y with _ | b | ⟨t, n, i⟩
    · cases hy
    · cases a <;> cases b <;> rfl
    · rw [exactValue_finite, compare_infinity]
      rfl
  · rcases y with _ | b | ⟨t, n, i⟩
    · cases hy
    · rw [exactValue_finite, Std.OrientedOrd.eq_swap, compare_infinity]
      cases b <;> rfl
    · rw [exactValue_finite, exactValue_finite, ← signedAt_eq s m (min_le_left e i),
        ← signedAt_eq t n (min_le_right e i), compare_ofRat]
      rfl

/-- **A double and an integer are compared by their exact values.** -/
theorem compareInt_eq {x : Double} (hx : x.isNaN = false) (n : Int) :
    x.compareInt? n = some (compare x.exactValue (ofRat n)) := by
  rcases x with _ | a | ⟨s, m, e⟩
  · cases hx
  · rw [compare_infinity]
    rfl
  · rw [exactValue_finite, ← shift_eq n (min_le_right e 0), ← signedAt_eq s m (min_le_left e 0),
      compare_ofRat]
    rfl

end Double

namespace Number

open ExactValue

/-- **The exact value of a number**; zero for what is not a number. -/
def exactValue : Number → ExactValue
  | .int n => ofRat n
  | .double x => x.exactValue

variable {a b : Number}

/-- **Numbers are compared by their exact values.** -/
theorem compare_eq (ha : a.isNaN = false) (hb : b.isNaN = false) :
    a.compare? b = some (compare a.exactValue b.exactValue) := by
  rcases a with m | x <;> rcases b with n | y
  · have hcompare := compare_ofRat m n 0
    simp only [zpow_zero, mul_one] at hcompare
    exact congrArg some hcompare.symm
  · rw [compare?, Double.compareInt_eq hb, Option.map_some, ← Std.OrientedOrd.eq_swap]
    rfl
  · exact Double.compareInt_eq ha n
  · exact Double.compare_eq ha hb

theorem less_iff (ha : a.isNaN = false) (hb : b.isNaN = false) :
    a.less b = true ↔ a.exactValue < b.exactValue := by
  rw [less, compare_eq ha hb, ← compare_lt_iff_lt]
  simp

theorem greater_iff (ha : a.isNaN = false) (hb : b.isNaN = false) :
    a.greater b = true ↔ b.exactValue < a.exactValue := by
  rw [greater, compare_eq ha hb, ← compare_gt_iff_gt]
  simp

theorem atMost_iff (ha : a.isNaN = false) (hb : b.isNaN = false) :
    a.atMost b = true ↔ a.exactValue ≤ b.exactValue := by
  rw [atMost, less, equal, compare_eq ha hb, le_iff_lt_or_eq, ← compare_lt_iff_lt,
    ← compare_eq_iff_eq]
  simp

theorem atLeast_iff (ha : a.isNaN = false) (hb : b.isNaN = false) :
    a.atLeast b = true ↔ b.exactValue ≤ a.exactValue := by
  rw [atLeast, greater, equal, compare_eq ha hb, le_iff_lt_or_eq, ← compare_gt_iff_gt,
    @eq_comm _ b.exactValue, ← compare_eq_iff_eq]
  simp

theorem equal_iff (ha : a.isNaN = false) (hb : b.isNaN = false) :
    a.equal b = true ↔ a.exactValue = b.exactValue := by
  rw [equal, compare_eq ha hb, ← compare_eq_iff_eq]
  simp

/-- What is not a number equals nothing, on either side. -/
theorem equal_of_isNaN (h : a.isNaN = true) (b : Number) :
    a.equal b = false ∧ b.equal a = false := by
  rcases a with m | _ | _ | _
  · cases h
  · rcases b with n | _ | _ | _ <;> exact ⟨rfl, rfl⟩
  · cases h
  · cases h

/-- **Equality is symmetric.** -/
theorem equal_comm (a b : Number) : a.equal b = b.equal a := by
  rcases ha : a.isNaN
  · rcases hb : b.isNaN
    · rw [Bool.eq_iff_iff, equal_iff ha hb, equal_iff hb ha, eq_comm]
    · rw [(equal_of_isNaN hb a).1, (equal_of_isNaN hb a).2]
  · rw [(equal_of_isNaN ha b).1, (equal_of_isNaN ha b).2]

/-- **All but what is not a number equals itself.** -/
theorem equal_self (a : Number) : a.equal a = !a.isNaN := by
  rcases ha : a.isNaN
  · rw [Bool.not_false, equal_iff ha ha]
  · rw [Bool.not_true, (equal_of_isNaN ha a).1]

end Number

end ChatFlow
