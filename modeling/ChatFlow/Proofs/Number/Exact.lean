import ChatFlow.Proofs.Clock.Timestamp
import ChatFlow.Proofs.Number.Order
import ChatFlow.Proofs.Number.Whole

/-!
# Doubles that hold integers

Doubles calculate exactly with integers of 53 bits: such an integer has a double, and sums and
differences of such doubles hold what they should.

* `Double.Holds` — a double has the value of an integer;
* `Double.holds_ofInt`, `Double.Holds.add`, `Double.Holds.sub` — conversion and arithmetic;
* `Double.Holds.truncate?`, `Number.atLeast_of_holds` — what is read off such a double;
* `Moment.timestamp_holds` — **the timestamp of a whole second holds its number**.
-/

namespace ChatFlow

namespace Double

/-- **A double that holds an integer**: one of its value. -/
def Holds (x : Double) (n : Int) : Prop :=
  ∃ negative m e, x = .finite negative m e ∧ (signed negative m * 2 ^ e : ℚ) = n

theorem signed_decide (n : Int) : signed (decide (n < 0)) n.natAbs = n := by
  unfold signed
  split
  · next hneg =>
    have : n < 0 := of_decide_eq_true hneg
    omega
  · next hneg =>
    have : ¬ n < 0 := fun h => hneg (decide_eq_true h)
    omega

theorem holds_zero (negative : Bool) : (zero negative).Holds 0 :=
  ⟨negative, 0, minExponent, rfl, by cases negative <;> simp [signed]⟩

/-- A natural of 53 bits and a sign. -/
theorem holds_ofRatio (negative : Bool) {k : Nat} (hk : k < 2 ^ 53) :
    (ofRatio negative k 1).Holds (signed negative k) := by
  obtain ⟨m, e, hfinite, hvalue⟩ := exists_ofRatio_nat negative hk
  refine ⟨negative, m, e, hfinite, ?_⟩
  cases negative <;> simp [signed, hvalue]

/-- **An integer of 53 bits** has a double that holds it. -/
theorem holds_ofInt {n : Int} (h : n.natAbs < 2 ^ 53) : (ofInt n).Holds n := by
  have hholds := holds_ofRatio (decide (n < 0)) h
  rwa [signed_decide] at hholds

/-- A multiple of a power of two that is an integer of 53 bits. -/
theorem holds_ofDyadic (negative : Bool) {m k : Nat} {e : Int} (hk : k < 2 ^ 53)
    (h : (m * 2 ^ e : ℚ) = k) : (ofDyadic negative m e).Holds (signed negative k) := by
  unfold ofDyadic
  rcases le_or_gt 0 e with he | he
  · obtain ⟨j, rfl⟩ := Int.eq_ofNat_of_zero_le he
    have hm : m * 2 ^ j = k := by exact_mod_cast h
    have hpow : Nat.pow 2 j = 2 ^ j := rfl
    rw [if_pos he, Int.toNat_natCast, hpow, hm]
    exact holds_ofRatio negative hk
  · obtain ⟨j, hj⟩ := Int.eq_ofNat_of_zero_le (by omega : 0 ≤ -e)
    obtain rfl : e = -(j : Int) := by omega
    have hpos : 0 < Nat.pow 2 j := Nat.pow_pos two_pos
    have hratio : (m / (Nat.pow 2 j : Nat) : ℚ) = k := by
      rw [← h, zpow_neg, zpow_natCast, div_eq_mul_inv]
      norm_cast
    have hrange : (m / (Nat.pow 2 j : Nat) : ℚ) < 2 ^ (1023 : Int) := by
      rw [hratio]
      refine lt_range (lt_of_lt_of_le (b := (2 : ℚ) ^ (53 : Nat)) (by exact_mod_cast hk) ?_)
      exact_mod_cast (Nat.pow_le_pow_right two_pos (by decide : 53 ≤ 64))
    have hnearest : nearest m (Nat.pow 2 j) = k := by
      rw [← nearest_nat hk.le]
      refine le_antisymm (nearest_mono hpos one_pos ?_) (nearest_mono one_pos hpos ?_) <;>
        rw [hratio] <;> simp
    obtain ⟨m', e', hfinite, hvalue⟩ := ofRatio_eq negative m hpos hrange
    rw [if_neg (by omega), neg_neg, Int.toNat_natCast]
    refine ⟨negative, m', e', hfinite, ?_⟩
    rw [hnearest] at hvalue
    cases negative <;> simp [signed, hvalue]

namespace Holds

variable {x y : Double} {a b n : Int}

theorem isNaN (h : x.Holds n) : x.isNaN = false := by
  obtain ⟨negative, m, e, rfl, -⟩ := h
  rfl

theorem exactValue (h : x.Holds n) : x.exactValue = ExactValue.ofRat n := by
  obtain ⟨negative, m, e, rfl, hvalue⟩ := h
  rw [exactValue_finite, hvalue]

theorem neg (h : x.Holds n) : x.neg.Holds (-n) := by
  obtain ⟨negative, m, e, rfl, hvalue⟩ := h
  refine ⟨!negative, m, e, rfl, ?_⟩
  rw [Int.cast_neg, ← hvalue]
  cases negative <;> simp [signed]

/-- **A sum of 53 bits** is exact. -/
theorem add (hx : x.Holds a) (hy : y.Holds b) (h : (a + b).natAbs < 2 ^ 53) :
    (x.add y).Holds (a + b) := by
  obtain ⟨s, m, e, rfl, ha⟩ := hx
  obtain ⟨t, k, i, rfl, hb⟩ := hy
  have hsum : ((signedAt (min e i) s m e + signedAt (min e i) t k i : Int) : ℚ) * 2 ^ min e i =
      (a + b : Int) := by
    rw [Int.cast_add, add_mul, signedAt_eq s m (min_le_left e i),
      signedAt_eq t k (min_le_right e i), ha, hb, Int.cast_add]
  change (ofSum (s && t) (signedAt (min e i) s m e + signedAt (min e i) t k i) (min e i)).Holds _
  generalize signedAt (min e i) s m e + signedAt (min e i) t k i = total at hsum
  have hpow : (0 : ℚ) < 2 ^ min e i := zpow_pos two_pos _
  unfold ofSum
  split
  · next hzero =>
    -- nothing is left of the sum
    rw [hzero, Int.cast_zero, zero_mul] at hsum
    have hab : a + b = 0 := by exact_mod_cast hsum.symm
    rw [hab]
    exact holds_zero _
  · have habs : (total.natAbs * 2 ^ min e i : ℚ) = (a + b).natAbs := by
      rw [Nat.cast_natAbs, Nat.cast_natAbs, Int.cast_abs, Int.cast_abs, ← hsum, abs_mul,
        abs_of_pos hpow]
    have hsign : decide (total < 0) = decide (a + b < 0) := by
      rw [decide_eq_decide]
      have hcast : (total : ℚ) < 0 ↔ ((a + b : Int) : ℚ) < 0 := by
        rw [← hsum, mul_neg_iff]
        simp [hpow, hpow.le]
      exact_mod_cast hcast
    rw [hsign]
    have hholds := holds_ofDyadic (decide (a + b < 0)) h habs
    rwa [signed_decide] at hholds

/-- **A difference of 53 bits** is exact. -/
theorem sub (hx : x.Holds a) (hy : y.Holds b) (h : (a - b).natAbs < 2 ^ 53) :
    (x.sub y).Holds (a - b) := by
  rw [Int.sub_eq_add_neg] at h ⊢
  exact hx.add hy.neg h

/-- It is cut to the integer. -/
theorem truncate? (h : x.Holds n) : x.truncate? = some n := by
  obtain ⟨negative, m, e, rfl, hvalue⟩ := h
  have hpow : (0 : ℚ) < 2 ^ e := zpow_pos two_pos _
  have hsize : (m * 2 ^ e : ℚ) = n.natAbs := by
    rw [Nat.cast_natAbs, Int.cast_abs, ← hvalue, abs_mul, abs_of_pos hpow]
    cases negative <;> simp [signed]
  rw [(whole_finite hsize negative).1]
  -- the sign is that of the integer, unless it is zero
  cases negative with
  | false =>
    have hn : (0 : ℚ) ≤ n := by
      rw [← hvalue]
      simpa [signed] using mul_nonneg (Nat.cast_nonneg m) hpow.le
    have hn : 0 ≤ n := by exact_mod_cast hn
    exact congrArg some (Int.natAbs_of_nonneg hn)
  | true =>
    have hn : (n : ℚ) ≤ 0 := by
      rw [← hvalue]
      simpa [signed] using mul_nonneg (Nat.cast_nonneg m) hpow.le
    have hn : n ≤ 0 := by exact_mod_cast hn
    exact congrArg some (by simp only [signed, if_true]; omega)

end Holds

end Double

namespace Number

variable {x : Double} {a b : Int}

theorem toInteger_of_holds (h : x.Holds a) : (Number.double x).toInteger = .ok a := by
  rw [toInteger, h.truncate?]

/-- An integer of 53 bits as a double. -/
theorem exists_doubleOfInt (h : a.natAbs < 2 ^ 53) : ∃ y, doubleOfInt a = .ok y ∧ y.Holds a := by
  obtain ⟨negative, m, e, hfinite, hvalue⟩ := Double.holds_ofInt h
  refine ⟨.finite negative m e, ?_, negative, m, e, rfl, hvalue⟩
  rw [doubleOfInt, hfinite]

/-- **An integer taken from a double that holds one** leaves a double that holds the difference. -/
theorem exists_sub (hx : x.Holds a) (hb : b.natAbs < 2 ^ 53) (h : (a - b).natAbs < 2 ^ 53) :
    ∃ y, (Number.double x).sub (.int b) = .ok (.double y) ∧ y.Holds (a - b) := by
  obtain ⟨y, hy, hholds⟩ := exists_doubleOfInt hb
  refine ⟨x.sub y, ?_, hx.sub hholds h⟩
  simp only [sub, combine, toDouble, hy]
  rfl

theorem atLeast_of_holds (hx : x.Holds a) (b : Int) :
    (Number.double x).atLeast (.int b) = decide (b ≤ a) := by
  have hnumber : (Number.double x).isNaN = false := hx.isNaN
  rw [Bool.eq_iff_iff, atLeast_iff hnumber rfl, decide_eq_true_eq]
  change ExactValue.ofRat b ≤ x.exactValue ↔ _
  rw [hx.exactValue, ExactValue.strictMono_ofRat.le_iff_le, Int.cast_le]

end Number

/-- **The timestamp of a whole second holds its number**, where a zone places it. -/
theorem Moment.timestamp_holds {m : Moment} {zone : Zone} {n : Int} (h : m.isValid = true)
    (hn : zone.seconds? m = some n) (hmicro : m.micro = 0) :
    ∃ x, m.timestamp zone = .ok x ∧ x.Holds n := by
  have hsize : n.natAbs < 2 ^ 53 := lt_of_le_of_lt (natAbs_le_of_seconds? h hn) (by decide)
  have hpart : (Double.ofRatio false m.micro 1000000).Holds 0 := by
    rw [hmicro]
    exact Double.holds_zero false
  have hsum := (Double.holds_ofInt hsize).add hpart (by rwa [Int.add_zero])
  rw [Int.add_zero] at hsum
  exact ⟨_, timestamp_of_seconds? hn, hsum⟩

end ChatFlow
