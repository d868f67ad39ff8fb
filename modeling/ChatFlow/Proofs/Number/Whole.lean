import ChatFlow.Number.Numeral
import ChatFlow.Proofs.Number.Rounding
import Mathlib.Data.List.TakeWhile

/-!
# Whole numbers

Integers of up to 53 bits pass through doubles unharmed.

* `Double.whole_finite` — a double of a whole value is an integer, and is cut to that value;
* `Number.narrow_ofDecimal` — a whole decimal is read as the integer;
* `Number.Spells` — a text that spells an integer, `Number.ofText_of_spells` — **it is read as the
  integer**.
-/

namespace ChatFlow

namespace Double

/-- **A double of a whole value** is an integer, and is cut to that value. -/
theorem whole_finite {m k : Nat} {e : Int} (h : (m * 2 ^ e : ℚ) = k) (negative : Bool) :
    (finite negative m e).truncate? = some (signed negative k) ∧
      (finite negative m e).isInteger = true := by
  unfold truncate? isInteger
  rcases le_or_gt 0 e with he | he
  · obtain ⟨j, rfl⟩ := Int.eq_ofNat_of_zero_le he
    have hk : m * 2 ^ j = k := by exact_mod_cast h
    simp [hk]
  · obtain ⟨j, hj⟩ := Int.eq_ofNat_of_zero_le (by omega : 0 ≤ -e)
    obtain rfl : e = -(j : Int) := by omega
    -- the bits behind the point are all zero
    have hm : m = k * 2 ^ j := by
      rw [zpow_neg, zpow_natCast, ← div_eq_mul_inv, div_eq_iff (by positivity)] at h
      exact_mod_cast h
    have hneg : ¬ (0 : Int) ≤ -(j : Int) := by omega
    have hpow : Nat.pow 2 j = 2 ^ j := rfl
    simp only [if_neg hneg, neg_neg, Int.toNat_natCast, hpow]
    subst hm
    rw [Nat.mul_div_cancel _ (by positivity), Nat.mul_mod_left]
    exact ⟨rfl, by simp⟩

/-- A natural of 53 bits has a double of its value. -/
theorem exists_ofRatio_nat (negative : Bool) {k : Nat} (hk : k < 2 ^ 53) :
    ∃ m e, ofRatio negative k 1 = .finite negative m e ∧ (m * 2 ^ e : ℚ) = k := by
  have hrange : ((k : ℚ) / (1 : Nat)) < 2 ^ (1023 : Int) := by
    rw [Nat.cast_one, div_one]
    refine lt_range (lt_of_lt_of_le (b := (2 : ℚ) ^ (53 : Nat)) (by exact_mod_cast hk) ?_)
    exact_mod_cast (Nat.pow_le_pow_right two_pos (by decide : 53 ≤ 64))
  obtain ⟨m, e, hfinite, hvalue⟩ := ofRatio_eq negative k one_pos hrange
  exact ⟨m, e, hfinite, hvalue.trans (nearest_nat hk.le)⟩

/-- A whole decimal of 53 bits is not settled by its size. -/
theorem ofDecimal_nat (negative : Bool) {k : Nat} (hk : k < 2 ^ 53) :
    ofDecimal negative k 0 = ofRatio negative k 1 := by
  rcases Nat.eq_zero_or_pos k with rfl | hpos
  · rfl
  have hbits : k.log2 < 53 := (Nat.log2_lt hpos.ne').mpr hk
  unfold ofDecimal
  rw [if_neg hpos.ne', if_neg (by omega), if_neg (by omega), if_pos le_rfl]
  simp

end Double

namespace Number

open Double (signed)

/-- **A whole decimal of 53 bits is read as the integer.** -/
theorem narrow_ofDecimal (negative : Bool) {k : Nat} (hk : k < 2 ^ 53) :
    narrow (.double (Double.ofDecimal negative k 0)) = .int (signed negative k) := by
  obtain ⟨m, e, hfinite, hvalue⟩ := Double.exists_ofRatio_nat negative hk
  obtain ⟨hwhole, hinteger⟩ := Double.whole_finite hvalue negative
  have hsize : (signed negative k).natAbs < Nat.pow 2 53 := by
    cases negative <;> simpa [signed] using hk
  simp only [narrow, Double.ofDecimal_nat negative hk, hfinite, hwhole, hinteger, hsize,
    decide_true, Bool.and_self, if_true]

/-- An integer of 53 bits has a double, so it can be asked whether it is zero. -/
theorem truthy_int {n : Int} (hn : n ≠ 0) (h : n.natAbs < 2 ^ 53) :
    (Number.int n).truthy = .ok true := by
  obtain ⟨m, e, hfinite, -⟩ := Double.exists_ofRatio_nat (n < 0) h
  rw [truthy, if_neg hn, doubleOfInt, Double.ofInt, hfinite]
  rfl

/-- What narrowing makes an integer has at most 53 bits. -/
theorem natAbs_lt_of_narrow {x : Double} {n : Int} (h : narrow (.double x) = .int n) :
    n.natAbs < 2 ^ 53 := by
  unfold narrow at h
  dsimp only at h
  split at h
  · split at h
    · next hsize =>
      obtain rfl := Number.int.inj h
      simpa using (Bool.and_eq_true_iff.mp hsize).2
    · cases h
  · cases h

/-- **An integer that a text spells** has at most 53 bits; a longer one is read as a double. -/
theorem natAbs_lt_of_ofText {s : String} {n : Int} (h : ofText s = .int n) : n.natAbs < 2 ^ 53 := by
  unfold ofText at h
  dsimp only at h
  split at h
  · obtain rfl := Number.int.inj h
    decide
  · split at h
    · next m hm =>
      subst h
      unfold Numeral.signed? at hm
      dsimp only at hm
      split at hm
      · -- infinities are doubles
        obtain ⟨hsigned, -⟩ := Prod.mk.inj (Option.some.inj hm)
        split at hsigned <;> cases hsigned
      · obtain ⟨⟨x, rest⟩, -, hx⟩ := Option.map_eq_some_iff.mp hm
        exact natAbs_lt_of_narrow (Prod.mk.inj hx).1
    · cases h

/-! ## Numerals -/

/-- **A text that spells an integer**: but for white space around it, decimal digits of any script,
behind a sign or none. -/
inductive Spells (s : String) : Int → Prop where
  /-- digits alone -/
  | plain {digits : List Char} (hne : digits ≠ []) (hdigits : ∀ c ∈ digits, isDecimal c = true)
    (h : trimChars s.toList = digits) : Spells s (Numeral.digitsValue digits)
  /-- digits behind a plus -/
  | plus {digits : List Char} (hne : digits ≠ []) (hdigits : ∀ c ∈ digits, isDecimal c = true)
    (h : trimChars s.toList = '+' :: digits) : Spells s (Numeral.digitsValue digits)
  /-- digits behind a minus -/
  | minus {digits : List Char} (hne : digits ≠ []) (hdigits : ∀ c ∈ digits, isDecimal c = true)
    (h : trimChars s.toList = '-' :: digits) : Spells s (-Numeral.digitsValue digits)

section

variable {digits : List Char} (hne : digits ≠ []) (hdigits : ∀ c ∈ digits, isDecimal c = true)

include hne hdigits

/-- A run of digits is read as the decimal that it spells. -/
theorem scan?_digits (negative : Bool) : Numeral.scan? negative digits =
    some (Double.ofDecimal negative (Numeral.digitsValue digits) 0, []) := by
  have htake : digits.takeWhile isDecimal = digits := List.takeWhile_eq_self_iff.mpr hdigits
  have hdrop : digits.dropWhile isDecimal = [] := List.dropWhile_eq_nil_iff.mpr hdigits
  have hmantissa : Numeral.mantissa? digits = some (digits, [], []) := by
    unfold Numeral.mantissa?
    rw [htake, hdrop]
    simp [hne]
  unfold Numeral.scan?
  rw [hmantissa]
  simp [Numeral.exponent]

/-- A run of digits is not the word for an unbounded number, and has no sign in front. -/
theorem head_digits :
    digits.take 8 ≠ Numeral.infinityWord ∧ Numeral.sign digits = (false, digits) := by
  obtain ⟨c, rest, rfl⟩ := List.exists_cons_of_ne_nil hne
  have hc : isDecimal c = true := hdigits c List.mem_cons_self
  constructor
  · intro hword
    have hhead : c = 'I' := by
      have hcons : c :: rest.take 7 = 'I' :: "nfinity".toList := hword
      exact (List.cons.inj hcons).1
    rw [hhead] at hc
    exact absurd hc (by decide)
  · unfold Numeral.sign
    split
    · next heq =>
      rw [(List.cons.inj heq).1] at hc
      exact absurd hc (by decide)
    · next heq =>
      rw [(List.cons.inj heq).1] at hc
      exact absurd hc (by decide)
    · rfl

/-- Digits behind a sign are one number, and nothing is left of them. -/
theorem signed?_of_sign {s : List Char} {negative : Bool}
    (hsign : Numeral.sign s = (negative, digits)) (hk : Numeral.digitsValue digits < 2 ^ 53) :
    Numeral.signed? s = some (.int (signed negative (Numeral.digitsValue digits)), []) := by
  obtain ⟨hword, -⟩ := head_digits hne hdigits
  unfold Numeral.signed?
  rw [hsign]
  simp only [if_neg hword, scan?_digits hne hdigits, Option.map_some, narrow_ofDecimal _ hk]

/-- Digits behind a sign are read as one number. -/
theorem ofText_of_sign {s : String} {negative : Bool}
    (hsign : Numeral.sign (trimChars s.toList) = (negative, digits))
    (hk : Numeral.digitsValue digits < 2 ^ 53) :
    ofText s = .int (signed negative (Numeral.digitsValue digits)) := by
  have hsome : trimChars s.toList ≠ [] := by
    intro hnil
    rw [hnil] at hsign
    exact hne (Prod.mk.inj hsign).2.symm
  unfold ofText
  simp [hsome, signed?_of_sign hne hdigits hsign hk]

end

/-- **What spells an integer of 53 bits is read as the integer.** -/
theorem ofText_of_spells {s : String} {n : Int} (h : Spells s n) (hn : n.natAbs < 2 ^ 53) :
    ofText s = .int n := by
  cases h with
  | plain hne hdigits h =>
    have hsign := (head_digits hne hdigits).2
    exact ofText_of_sign hne hdigits (by rwa [h]) (by simpa using hn)
  | plus hne hdigits h => exact ofText_of_sign hne hdigits (by rw [h]; rfl) (by simpa using hn)
  | minus hne hdigits h => exact ofText_of_sign hne hdigits (by rw [h]; rfl) (by simpa using hn)

end Number

end ChatFlow
