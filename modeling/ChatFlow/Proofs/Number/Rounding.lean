import ChatFlow.Number.Basic
import Mathlib.Algebra.Order.Field.Power
import Mathlib.Algebra.Order.Archimedean.Basic
import Mathlib.Data.Rat.Cast.Order
import Mathlib.Tactic.FieldSimp
import Mathlib.Tactic.Linarith
import Mathlib.Tactic.NormNum
import Mathlib.Tactic.Positivity
import Mathlib.Tactic.Ring

/-!
# Rounding

The double of a ratio, read as a rational number.

* `roundDiv_mono` — the nearest natural grows with the quotient;
* `lt_grid`, `grid_le` — the exponent of a ratio leaves at most 53 bits before the point, and
  exactly 53 wherever it can;
* `nearest` — the value of the double of a ratio, `nearest_mono` — **rounding keeps the order**, and
  `nearest_nat` — **leaves whole numbers of 53 bits as they are**;
* `le_of_le_nearest` — millionths are not rounded away below `2 ^ 34`;
* `ofRatio_eq` — a ratio within the range has a finite double of this value, `atLeast_iff` — which
  compares by this value.
-/

namespace ChatFlow.Double

/-! ## The nearest natural -/

/-- A quotient is at most one half off its nearest natural, and that far only from an even one. -/
theorem roundDiv_near (num : Nat) {den : Nat} (hden : 0 < den) :
    ((roundDiv num den : ℚ) - 1 / 2 ≤ num / den ∧ (num / den : ℚ) ≤ roundDiv num den + 1 / 2) ∧
      (((num / den : ℚ) = roundDiv num den + 1 / 2 ∨ (num / den : ℚ) = roundDiv num den - 1 / 2) →
        roundDiv num den % 2 = 0) := by
  have hpos : (0 : ℚ) < den := by exact_mod_cast hden
  obtain ⟨x, hx⟩ : ∃ x : ℚ, x = (num % den : Nat) / den := ⟨_, rfl⟩
  have hsplit : (num / den : ℚ) = (num / den : Nat) + x := by
    rw [hx, add_div' _ _ _ hpos.ne', div_left_inj' hpos.ne']
    exact_mod_cast (Nat.div_add_mod' num den).symm
  have hnonneg : 0 ≤ x := by rw [hx]; positivity
  have hlt : x < 1 := by
    rw [hx, div_lt_one hpos]
    exact_mod_cast Nat.mod_lt num hden
  have hbelow : x < 1 / 2 ↔ 2 * (num % den) < den := by
    rw [hx, div_lt_div_iff₀ hpos two_pos, ← Nat.cast_lt (α := ℚ)]
    push_cast
    constructor <;> intro h <;> linarith
  have habove : 1 / 2 < x ↔ den < 2 * (num % den) := by
    rw [hx, div_lt_div_iff₀ two_pos hpos, ← Nat.cast_lt (α := ℚ)]
    push_cast
    constructor <;> intro h <;> linarith
  rw [hsplit]
  unfold roundDiv
  simp only
  split_ifs with hdown hup
  · have := hbelow.mpr hdown
    refine ⟨⟨by linarith, by linarith⟩, ?_⟩
    rintro (h | h) <;> linarith
  · have := habove.mpr hup
    push_cast
    refine ⟨⟨by linarith, by linarith⟩, ?_⟩
    rintro (h | h) <;> linarith
  · -- a half: the even one of the two neighbours
    have h₁ := mt hbelow.mp hdown
    have h₂ := mt habove.mp hup
    rcases Nat.mod_two_eq_zero_or_one (num / den) with h | h <;> rw [h]
    · exact ⟨⟨by push_cast; linarith, by push_cast; linarith⟩, fun _ => by omega⟩
    · exact ⟨⟨by push_cast; linarith, by push_cast; linarith⟩, fun _ => by omega⟩

/-- **The nearest natural grows with the quotient.** -/
theorem roundDiv_mono {n₁ d₁ n₂ d₂ : Nat} (h₁ : 0 < d₁) (h₂ : 0 < d₂)
    (h : (n₁ / d₁ : ℚ) ≤ n₂ / d₂) : roundDiv n₁ d₁ ≤ roundDiv n₂ d₂ := by
  obtain ⟨⟨hlow, -⟩, heven₁⟩ := roundDiv_near n₁ h₁
  obtain ⟨⟨-, hhigh⟩, heven₂⟩ := roundDiv_near n₂ h₂
  by_contra hlt
  -- otherwise both quotients lie half way between two neighbours, of which only one is even
  have hnext : (roundDiv n₂ d₂ : ℚ) + 1 ≤ roundDiv n₁ d₁ := by exact_mod_cast Nat.lt_of_not_le hlt
  have hsame : (roundDiv n₁ d₁ : ℚ) = roundDiv n₂ d₂ + 1 := by linarith
  have he₁ := heven₁ (Or.inr (by linarith))
  have he₂ := heven₂ (Or.inl (by linarith))
  have : roundDiv n₁ d₁ = roundDiv n₂ d₂ + 1 := by exact_mod_cast hsame
  omega

theorem roundDiv_self_mul (k : Nat) {den : Nat} (hden : 0 < den) : roundDiv (k * den) den = k := by
  simp [roundDiv, Nat.mul_div_cancel k hden, hden]

/-! ## The exponent -/

theorem scaled_pos (num : Nat) {den : Nat} (hden : 0 < den) (e : Int) : 0 < (scaled num den e).2 := by
  unfold scaled
  split
  · exact Nat.mul_pos hden (Nat.pow_pos two_pos)
  · exact hden

/-- Scaling divides by a power of two. -/
theorem scaled_eq (num den : Nat) (e : Int) :
    ((scaled num den e).1 / (scaled num den e).2 : ℚ) = num / den / 2 ^ e := by
  unfold scaled
  split
  · next h =>
    obtain ⟨k, rfl⟩ := Int.eq_ofNat_of_zero_le h
    simp [div_div]
  · next h =>
    obtain ⟨k, hk⟩ := Int.eq_ofNat_of_zero_le (by omega : 0 ≤ -e)
    obtain rfl : e = -(k : Int) := by omega
    simp [div_eq_mul_inv]
    ring

/-- The exponent that the double of a ratio is first written with. -/
def grid (num den : Nat) : Int :=
  let rough : Int := max minExponent ((num.log2 : Int) - (den.log2 : Int) - 53)
  let (n, d) := scaled num den rough
  if n / d < Nat.pow 2 53 then rough else rough + 1

/-- The mantissa that the double of a ratio is first written with. -/
def wholes (num den : Nat) : Nat :=
  roundDiv (scaled num den (grid num den)).1 (scaled num den (grid num den)).2

theorem ofRatio_eq_settle (negative : Bool) {num : Nat} (hnum : num ≠ 0) (den : Nat) :
    ofRatio negative num den = settle negative (wholes num den) (grid num den) := by
  unfold ofRatio wholes grid
  rw [if_neg hnum]

/-- A ratio lies between the powers of two that its binary lengths tell. -/
theorem ratio_bounds {num den : Nat} (hnum : num ≠ 0) (hden : den ≠ 0) :
    (2 : ℚ) ^ ((num.log2 : Int) - den.log2 - 1) < num / den ∧
      (num / den : ℚ) < 2 ^ ((num.log2 : Int) - den.log2 + 1) := by
  have hpos : (0 : ℚ) < den := by exact_mod_cast Nat.pos_of_ne_zero hden
  have hn : (2 : ℚ) ^ (num.log2 : Int) ≤ num ∧ (num : ℚ) < 2 ^ ((num.log2 : Int) + 1) := by
    constructor
    · exact_mod_cast Nat.log2_self_le hnum
    · exact_mod_cast Nat.lt_log2_self
  have hd : (2 : ℚ) ^ (den.log2 : Int) ≤ den ∧ (den : ℚ) < 2 ^ ((den.log2 : Int) + 1) := by
    constructor
    · exact_mod_cast Nat.log2_self_le hden
    · exact_mod_cast Nat.lt_log2_self
  constructor
  · rw [lt_div_iff₀ hpos]
    calc (2 : ℚ) ^ ((num.log2 : Int) - den.log2 - 1) * den
        < 2 ^ ((num.log2 : Int) - den.log2 - 1) * 2 ^ ((den.log2 : Int) + 1) := by
          gcongr
          exact hd.2
      _ = 2 ^ (num.log2 : Int) := by
          rw [← zpow_add₀ two_ne_zero]
          congr 1
          omega
      _ ≤ num := hn.1
  · rw [div_lt_iff₀ hpos]
    calc (num : ℚ) < 2 ^ ((num.log2 : Int) + 1) := hn.2
      _ = 2 ^ ((num.log2 : Int) - den.log2 + 1) * 2 ^ (den.log2 : Int) := by
          rw [← zpow_add₀ two_ne_zero]
          congr 1
          omega
      _ ≤ 2 ^ ((num.log2 : Int) - den.log2 + 1) * den := by
          gcongr
          exact hd.1

theorem le_grid (num den : Nat) : minExponent ≤ grid num den := by
  unfold grid
  simp only
  split <;> omega

/-- Whether 53 bits before the point are too few, as the exponent is chosen by it. -/
theorem scaled_div_lt {num den : Nat} (hden : 0 < den) (e : Int) :
    (scaled num den e).1 / (scaled num den e).2 < Nat.pow 2 53 ↔
      (num / den : ℚ) < 2 ^ (e + 53) := by
  have hpos : (0 : ℚ) < (scaled num den e).2 := by exact_mod_cast scaled_pos num hden e
  have hscale : (0 : ℚ) < 2 ^ e := zpow_pos two_pos e
  rw [zpow_add₀ two_ne_zero, ← div_lt_iff₀' hscale, ← scaled_eq, div_lt_iff₀ hpos,
    Nat.div_lt_iff_lt_mul (scaled_pos num hden e), ← Nat.cast_lt (α := ℚ)]
  norm_num

/-- **At most 53 bits stand before the point.** -/
theorem lt_grid (num : Nat) {den : Nat} (hden : 0 < den) :
    (num / den : ℚ) < 2 ^ (grid num den + 53) := by
  rcases Nat.eq_zero_or_pos num with rfl | hnum
  · simpa using zpow_pos (two_pos (α := ℚ)) _
  · unfold grid
    simp only
    split_ifs with h
    · exact (scaled_div_lt hden _).mp h
    · refine lt_of_lt_of_le (ratio_bounds hnum.ne' hden.ne').2 ?_
      exact zpow_le_zpow_right₀ one_le_two (by omega)

/-- **Exactly 53 bits stand before the point**, where the exponent is not the smallest. -/
theorem grid_le {num den : Nat} (hnum : 0 < num) (hden : 0 < den)
    (h : minExponent < grid num den) : (2 : ℚ) ^ (grid num den + 52) ≤ num / den := by
  unfold grid at h ⊢
  simp only at h ⊢
  split_ifs at h ⊢ with hfew
  · have hrough : max minExponent ((num.log2 : Int) - den.log2 - 53) =
        (num.log2 : Int) - den.log2 - 53 := by omega
    rw [hrough, show (num.log2 : Int) - den.log2 - 53 + 52 = num.log2 - den.log2 - 1 by ring]
    exact (ratio_bounds hnum.ne' hden.ne').1.le
  · have hmany := mt (scaled_div_lt hden _).mpr hfew
    rw [add_right_comm, add_assoc]
    exact le_of_not_gt hmany

/-! ## The value of the double -/

/-- **The value of the double of a ratio.** -/
def nearest (num den : Nat) : ℚ := wholes num den * 2 ^ grid num den

theorem wholes_le {num den : Nat} (hden : 0 < den) : wholes num den ≤ 2 ^ 53 := by
  have hbound : ((scaled num den (grid num den)).1 / (scaled num den (grid num den)).2 : ℚ) ≤
      ((2 ^ 53 * 1 : Nat) : ℚ) / (1 : Nat) := by
    rw [scaled_eq, div_le_iff₀ (zpow_pos two_pos _)]
    have := (lt_grid num hden).le
    rw [zpow_add₀ two_ne_zero] at this
    calc (num / den : ℚ) ≤ 2 ^ grid num den * 2 ^ (53 : Int) := this
      _ = _ := by norm_num [mul_comm]
  have := roundDiv_mono (scaled_pos num hden _) one_pos hbound
  rwa [roundDiv_self_mul _ one_pos] at this

theorem le_wholes {num den : Nat} (hnum : 0 < num) (hden : 0 < den)
    (h : minExponent < grid num den) : 2 ^ 52 ≤ wholes num den := by
  have hbound : ((2 ^ 52 * 1 : Nat) : ℚ) / (1 : Nat) ≤
      (scaled num den (grid num den)).1 / (scaled num den (grid num den)).2 := by
    rw [scaled_eq, le_div_iff₀ (zpow_pos two_pos _)]
    have := grid_le hnum hden h
    rw [zpow_add₀ two_ne_zero] at this
    calc _ = (2 : ℚ) ^ grid num den * 2 ^ (52 : Int) := by norm_num [mul_comm]
      _ ≤ _ := this
  have := roundDiv_mono one_pos (scaled_pos num hden _) hbound
  rwa [roundDiv_self_mul _ one_pos] at this

theorem nearest_zero (den : Nat) : nearest 0 den = 0 := by
  have hzero : wholes 0 den = 0 := by
    unfold wholes scaled
    split <;> simp [roundDiv]
  rw [nearest, hzero, Nat.cast_zero, zero_mul]

theorem nearest_nonneg (num den : Nat) : 0 ≤ nearest num den := by
  unfold nearest
  positivity

/-- **Rounding keeps the order.** -/
theorem nearest_mono {n₁ d₁ n₂ d₂ : Nat} (h₁ : 0 < d₁) (h₂ : 0 < d₂)
    (h : (n₁ / d₁ : ℚ) ≤ n₂ / d₂) : nearest n₁ d₁ ≤ nearest n₂ d₂ := by
  rcases Nat.eq_zero_or_pos n₁ with rfl | hpos
  · rw [nearest_zero]
    exact nearest_nonneg n₂ d₂
  have hpos₂ : 0 < n₂ := by
    have : (0 : ℚ) < n₂ / d₂ := lt_of_lt_of_le (by positivity) h
    rw [div_pos_iff_of_pos_right (by exact_mod_cast h₂)] at this
    exact_mod_cast this
  -- the larger ratio is not written with the smaller exponent
  have hgrid : grid n₁ d₁ ≤ grid n₂ d₂ := by
    by_contra hlt
    have hlow := grid_le hpos h₁ (lt_of_le_of_lt (le_grid n₂ d₂) (not_le.mp hlt))
    have hall := lt_of_le_of_lt (hlow.trans h) (lt_grid n₂ h₂)
    rw [zpow_lt_zpow_iff_right₀ one_lt_two] at hall
    omega
  unfold nearest
  rcases hgrid.eq_or_lt with heq | hlt
  · rw [heq]
    have hwholes : wholes n₁ d₁ ≤ wholes n₂ d₂ := by
      refine roundDiv_mono (scaled_pos n₁ h₁ _) (scaled_pos n₂ h₂ _) ?_
      rw [scaled_eq, scaled_eq, heq]
      gcongr
    gcongr
  · have hfew : (wholes n₁ d₁ : ℚ) ≤ 2 ^ 53 := by exact_mod_cast wholes_le h₁
    have hmany : (2 : ℚ) ^ 52 ≤ wholes n₂ d₂ := by
      exact_mod_cast le_wholes hpos₂ h₂ (lt_of_le_of_lt (le_grid n₁ d₁) hlt)
    calc (wholes n₁ d₁ : ℚ) * 2 ^ grid n₁ d₁ ≤ 2 ^ 53 * 2 ^ grid n₁ d₁ := by gcongr
      _ = 2 ^ 52 * 2 ^ (grid n₁ d₁ + 1) := by
          rw [zpow_add₀ two_ne_zero]
          ring
      _ ≤ 2 ^ 52 * 2 ^ grid n₂ d₂ := by
          gcongr
          · exact one_le_two
          · exact hlt
      _ ≤ wholes n₂ d₂ * 2 ^ grid n₂ d₂ := by gcongr

/-- Rounding moves a ratio by half of a unit of the last bit at most. -/
theorem nearest_near (num : Nat) {den : Nat} (hden : 0 < den) :
    nearest num den ≤ num / den + 2 ^ grid num den / 2 := by
  have hscale : (0 : ℚ) < 2 ^ grid num den := zpow_pos two_pos _
  obtain ⟨⟨hnear, -⟩, -⟩ := roundDiv_near (scaled num den (grid num den)).1
    (scaled_pos num hden (grid num den))
  rw [scaled_eq, le_div_iff₀ hscale] at hnear
  calc nearest num den = ((wholes num den : ℚ) - 1 / 2) * 2 ^ grid num den +
        2 ^ grid num den / 2 := by
        unfold nearest
        ring
    _ ≤ num / den + 2 ^ grid num den / 2 := by
        gcongr
        exact hnear

/-- A ratio that needs no bits behind the last one is left as it is. -/
theorem nearest_eq {num den : Nat} (hden : 0 < den) {k : Nat}
    (h : (num / den : ℚ) = k * 2 ^ grid num den) : nearest num den = num / den := by
  have hscaled : ((scaled num den (grid num den)).1 / (scaled num den (grid num den)).2 : ℚ) =
      ((k * 1 : Nat) : ℚ) / (1 : Nat) := by
    rw [scaled_eq, h, mul_div_cancel_right₀ _ (zpow_pos two_pos _).ne']
    simp
  have hwholes : wholes num den = k := by
    rw [← roundDiv_self_mul k one_pos]
    exact le_antisymm (roundDiv_mono (scaled_pos num hden _) one_pos hscaled.le)
      (roundDiv_mono one_pos (scaled_pos num hden _) hscaled.ge)
  rw [nearest, hwholes, h]

/-- **A whole number of 53 bits is left as it is.** -/
theorem nearest_nat {k : Nat} (hk : k ≤ 2 ^ 53) : nearest k 1 = k := by
  have hvalue : ((k : ℚ) / (1 : Nat)) = k := by simp
  rcases le_or_gt (grid k 1) 0 with hgrid | hgrid
  · -- the last bit stands for no more than one
    obtain ⟨j, hj⟩ := Int.eq_ofNat_of_zero_le (by omega : 0 ≤ -grid k 1)
    rw [nearest_eq (k := k * 2 ^ j) one_pos, hvalue]
    rw [hvalue, show grid k 1 = -(j : Int) by omega, zpow_neg, zpow_natCast]
    push_cast
    rw [mul_inv_cancel_right₀ (by positivity)]
  · -- only the largest of them is written with a larger last bit
    have hpos : 0 < k := by
      rcases Nat.eq_zero_or_pos k with rfl | h
      · exact absurd hgrid (by decide)
      · exact h
    have hlow := grid_le hpos one_pos (lt_trans (by decide) hgrid)
    rw [hvalue] at hlow
    have hmany : (2 : ℚ) ^ (53 : Int) ≤ k :=
      le_trans (zpow_le_zpow_right₀ one_le_two (by omega)) hlow
    obtain rfl : k = 2 ^ 53 := le_antisymm hk (by exact_mod_cast hmany)
    rw [nearest_eq (k := 2 ^ 52) one_pos, hvalue]
    rw [show grid (2 ^ 53) 1 = 1 by decide]
    norm_num

/-- What is at most a whole number of 53 bits is rounded to at most that. -/
theorem nearest_le {num den k : Nat} (hden : 0 < den) (hk : k ≤ 2 ^ 53) (h : num ≤ k * den) :
    nearest num den ≤ k := by
  rw [← nearest_nat hk]
  refine nearest_mono hden one_pos ?_
  rw [div_le_iff₀ (by exact_mod_cast hden), Nat.cast_one, div_one]
  exact_mod_cast h

/-- What is at least a whole number of 53 bits is rounded to at least that. -/
theorem le_nearest {num den k : Nat} (hden : 0 < den) (hk : k ≤ 2 ^ 53) (h : k * den ≤ num) :
    (k : ℚ) ≤ nearest num den := by
  rw [← nearest_nat hk]
  refine nearest_mono one_pos hden ?_
  rw [le_div_iff₀ (by exact_mod_cast hden), Nat.cast_one, div_one]
  exact_mod_cast h

/-- **Millionths are not rounded away** below `2 ^ 34`: what is rounded to so large a whole number
is at least that number. -/
theorem le_of_le_nearest {num k : Nat} (hk : k ≤ 2 ^ 34) (h : (k : ℚ) ≤ nearest num 1000000) :
    k * 1000000 ≤ num := by
  by_contra hlt
  have hmillion : 0 < 1000000 := by norm_num
  have hnext : (num + 1 : ℚ) ≤ k * 1000000 := by exact_mod_cast Nat.lt_of_not_le hlt
  have hbound : (k : ℚ) ≤ 2 ^ 34 := by exact_mod_cast hk
  -- half of a unit of the last bit is less than one millionth
  have hgrid : grid num 1000000 ≤ -19 := by
    rcases (le_grid num 1000000).eq_or_lt with heq | hfine
    · rw [← heq]
      decide
    · have hpos : 0 < num := by
        rcases Nat.eq_zero_or_pos num with rfl | hpos
        · rw [nearest_zero] at h
          have hzero : k = 0 := by exact_mod_cast le_antisymm h (Nat.cast_nonneg k)
          subst hzero
          exact absurd (Nat.zero_le _) hlt
        · exact hpos
      have hlow := grid_le hpos hmillion hfine
      have hhigh : (num / (1000000 : Nat) : ℚ) < 2 ^ (34 : Int) := by
        rw [div_lt_iff₀ (by exact_mod_cast hmillion)]
        push_cast
        linarith
      have := hlow.trans_lt hhigh
      rw [zpow_lt_zpow_iff_right₀ one_lt_two] at this
      omega
  have hunit : (2 : ℚ) ^ grid num 1000000 / 2 < 1 / 1000000 := by
    calc (2 : ℚ) ^ grid num 1000000 / 2 ≤ 2 ^ (-19 : Int) / 2 := by
          gcongr
          exact one_le_two
      _ < 1 / 1000000 := by norm_num
  have hnear := nearest_near num hmillion
  have hsplit : (num / (1000000 : Nat) : ℚ) ≤ k - 1 / 1000000 := by
    rw [div_le_iff₀ (by exact_mod_cast hmillion)]
    push_cast
    linarith
  linarith

/-- What fits a machine word is within the range. -/
theorem lt_range {q : ℚ} (h : q < 2 ^ (64 : Int)) : q < 2 ^ (1023 : Int) :=
  h.trans_le (zpow_le_zpow_right₀ one_le_two (by omega))

/-- **A ratio within the range has a finite double** of its value. -/
theorem ofRatio_eq (negative : Bool) (num : Nat) {den : Nat} (hden : 0 < den)
    (h : (num / den : ℚ) < 2 ^ (1023 : Int)) :
    ∃ m e, ofRatio negative num den = .finite negative m e ∧ (m * 2 ^ e : ℚ) = nearest num den := by
  rcases Nat.eq_zero_or_pos num with rfl | hnum
  · exact ⟨0, minExponent, by simp [ofRatio, zero], by simp [nearest_zero]⟩
  have hgrid : grid num den < maxExponent := by
    rcases (le_grid num den).eq_or_lt with heq | hlt
    · rw [← heq]
      decide
    · have := lt_of_le_of_lt (grid_le hnum hden hlt) h
      rw [zpow_lt_zpow_iff_right₀ one_lt_two] at this
      unfold maxExponent
      omega
  rw [ofRatio_eq_settle negative hnum.ne' den]
  unfold settle
  by_cases hcarry : wholes num den = Nat.pow 2 53
  · refine ⟨Nat.pow 2 52, grid num den + 1, ?_, ?_⟩
    · rw [if_pos hcarry]
      exact if_neg (by omega)
    · rw [nearest, hcarry, zpow_add₀ two_ne_zero]
      norm_num
      ring
  · refine ⟨wholes num den, grid num den, ?_, rfl⟩
    rw [if_neg hcarry]
    exact if_neg (by omega)

/-! ## Sums -/

theorem ofDyadic_finite (negative : Bool) {m : Nat} {e : Int}
    (h : (m * 2 ^ e : ℚ) < 2 ^ (1023 : Int)) :
    ∃ m' e', ofDyadic negative m e = .finite negative m' e' := by
  unfold ofDyadic
  split
  · next he =>
    obtain ⟨k, rfl⟩ := Int.eq_ofNat_of_zero_le he
    obtain ⟨m', e', hfinite, -⟩ := ofRatio_eq negative (m * Nat.pow 2 k) one_pos
      (by simpa using h)
    exact ⟨m', e', hfinite⟩
  · next he =>
    obtain ⟨k, hk⟩ := Int.eq_ofNat_of_zero_le (by omega : 0 ≤ -e)
    obtain rfl : e = -(k : Int) := by omega
    obtain ⟨m', e', hfinite, -⟩ := ofRatio_eq negative m
      (Nat.pow_pos two_pos : 0 < Nat.pow 2 k) (by simpa [div_eq_mul_inv] using h)
    exact ⟨m', e', by simpa using hfinite⟩

theorem natAbs_signedAt {low : Int} (negative : Bool) (m : Nat) {e : Int} (h : low ≤ e) :
    ((signedAt low negative m e).natAbs * 2 ^ low : ℚ) = m * 2 ^ e := by
  have habs : (signedAt low negative m e).natAbs = m * 2 ^ (e - low).toNat := by
    unfold signedAt signed
    cases negative <;> simp [Int.natAbs_mul, Int.natAbs_pow]
  obtain ⟨k, hk⟩ := Int.eq_ofNat_of_zero_le (by omega : 0 ≤ e - low)
  obtain rfl : e = k + low := by omega
  rw [habs, hk, zpow_add₀ two_ne_zero]
  simp
  ring

/-- **A sum within the range is finite.** -/
theorem add_finite (s₁ s₂ : Bool) {m₁ m₂ : Nat} {e₁ e₂ : Int}
    (h : (m₁ * 2 ^ e₁ + m₂ * 2 ^ e₂ : ℚ) < 2 ^ (1023 : Int)) :
    ∃ s m e, add (.finite s₁ m₁ e₁) (.finite s₂ m₂ e₂) = .finite s m e := by
  unfold add ofSum
  simp only
  split
  · exact ⟨_, _, _, rfl⟩
  · refine ⟨_, ofDyadic_finite _ (lt_of_le_of_lt ?_ h)⟩
    rw [← natAbs_signedAt s₁ m₁ (min_le_left e₁ e₂), ← natAbs_signedAt s₂ m₂ (min_le_right e₁ e₂),
      ← add_mul]
    gcongr
    exact_mod_cast Int.natAbs_add_le _ _

/-! ## Order -/

theorem ge_of_compare (a b : Int) :
    (some (compare a b) == some .gt || some (compare a b) == some .eq) = true ↔ b ≤ a := by
  rcases lt_trichotomy a b with h | rfl | h
  · simp [compare_lt_iff_lt.mpr h, h]
  · simp
  · simp [compare_gt_iff_gt.mpr h, h.le]

/-- **A double is at least a positive integer** when its value is. -/
theorem atLeast_iff {negative : Bool} {m : Nat} {e n : Int} (hn : 0 < n) :
    (Number.double (.finite negative m e)).atLeast (.int n) = true ↔
      negative = false ∧ (n : ℚ) ≤ m * 2 ^ e := by
  obtain ⟨k, hk⟩ := Int.eq_ofNat_of_zero_le (by omega : 0 ≤ 0 - min e 0)
  have hscale : (0 : ℚ) < 2 ^ min e 0 := zpow_pos two_pos _
  have hwhole : ((n * 2 ^ k : Int) : ℚ) * 2 ^ min e 0 = n := by
    rw [show min e 0 = -(k : Int) by omega, zpow_neg, zpow_natCast, Int.cast_mul, Int.cast_pow]
    exact mul_inv_cancel_right₀ (by positivity) _
  have hvalue := natAbs_signedAt negative m (min_le_left e 0)
  unfold Number.atLeast Number.greater Number.equal Number.compare? compareInt?
  simp only [hk]
  rw [ge_of_compare]
  cases negative with
  | true =>
    have hsign : signedAt (min e 0) true m e ≤ 0 := by
      unfold signedAt signed
      simp
    have hpos : 0 < n * (Nat.pow 2 k : Nat) :=
      Int.mul_pos hn (Int.natCast_pos.mpr (Nat.pow_pos two_pos))
    constructor
    · intro h
      exact absurd hsign (not_le.mpr (hpos.trans_le h))
    · rintro ⟨h, -⟩
      cases h
  | false =>
    have hsign : ((signedAt (min e 0) false m e).natAbs : Int) = signedAt (min e 0) false m e := by
      unfold signedAt signed
      simp
    rw [← Int.cast_natCast, hsign] at hvalue
    rw [← hvalue, ← hwhole, mul_le_mul_iff_left₀ hscale, Int.cast_le]
    simp

end ChatFlow.Double
