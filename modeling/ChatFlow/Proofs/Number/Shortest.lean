import ChatFlow.Proofs.Number.Canonical

/-!
# The shortest decimal of a double

* `readsBack_iff` — the test of a candidate is that it lies nearest to the double;
* `leading_le` — the estimated leading digit is not too high, so the seventeenth digit stands for
  less than a unit of the last bit;
* `rounds_shortest` — **a decimal is found before the digits run out, and it lies nearest to the
  double**, `ofDecimal_shortest` — so that it is rounded back to it.
-/

namespace ChatFlow.Double

/-! ## Ratios -/

/-- An exponent is a natural or the opposite of one. -/
theorem exponent_cases (p : Int) : ∃ k : Nat, p = k ∨ (p = -(k : Int) ∧ ¬ 0 ≤ p) := by
  rcases le_or_gt 0 p with h | h
  · obtain ⟨k, rfl⟩ := Int.eq_ofNat_of_zero_le h
    exact ⟨k, .inl rfl⟩
  · exact ⟨(-p).toNat, .inr ⟨by omega, by omega⟩⟩

theorem ratio_pos (m : Nat) (e : Int) : 0 < (ratio m e).2 := by
  unfold ratio
  split
  · exact one_pos
  · exact Nat.pow_pos two_pos

/-- The ratio of a double is its value. -/
theorem ratio_eq (m : Nat) (e : Int) : ((ratio m e).1 / (ratio m e).2 : ℚ) = m * 2 ^ e := by
  obtain ⟨k, rfl | ⟨rfl, hneg⟩⟩ := exponent_cases e
  · simp [ratio]
  · rw [ratio, if_neg hneg]
    simp [div_eq_mul_inv]

/-- A decimal as a ratio. -/
theorem exists_decimal (d : Nat) (p : Int) : ∃ a b : Nat,
    (if 0 ≤ p then (d * Nat.pow 10 p.toNat, 1) else (d, Nat.pow 10 (-p).toNat)) = (a, b) ∧
      0 < b ∧ (a / b : ℚ) = d * 10 ^ p := by
  obtain ⟨k, rfl | ⟨rfl, hneg⟩⟩ := exponent_cases p
  · exact ⟨_, _, if_pos (Int.natCast_nonneg k), one_pos, by simp⟩
  · exact ⟨_, _, if_neg hneg, Nat.pow_pos (by decide), by simp [div_eq_mul_inv]⟩

/-- A ratio in units of a power of ten. -/
theorem exists_grid (num : Nat) {den : Nat} (hden : 0 < den) (p : Int) : ∃ n d : Nat,
    (if 0 ≤ p then (num, den * Nat.pow 10 p.toNat) else (num * Nat.pow 10 (-p).toNat, den)) =
      (n, d) ∧ 0 < d ∧ (n / d : ℚ) = num / den / 10 ^ p := by
  obtain ⟨k, rfl | ⟨rfl, hneg⟩⟩ := exponent_cases p
  · refine ⟨_, _, if_pos (Int.natCast_nonneg k), Nat.mul_pos hden (Nat.pow_pos (by decide)), ?_⟩
    simp [div_div]
  · refine ⟨_, _, if_neg hneg, hden, ?_⟩
    simp [div_eq_mul_inv]
    ring

theorem cross_le {a b u v k : Nat} (hb : 0 < b) (hv : 0 < v) :
    k * (u * b) ≤ a * v ↔ (k * (u / v) : ℚ) ≤ a / b := by
  have hb' : (0 : ℚ) < b := by exact_mod_cast hb
  have hv' : (0 : ℚ) < v := by exact_mod_cast hv
  rw [← mul_div_assoc, div_le_div_iff₀ hv' hb', mul_assoc]
  exact_mod_cast Iff.rfl

theorem le_cross {a b u v k : Nat} (hb : 0 < b) (hv : 0 < v) :
    a * v ≤ k * (u * b) ↔ (a / b : ℚ) ≤ k * (u / v) := by
  have hb' : (0 : ℚ) < b := by exact_mod_cast hb
  have hv' : (0 : ℚ) < v := by exact_mod_cast hv
  rw [← mul_div_assoc, div_le_div_iff₀ hb' hv', mul_assoc]
  exact_mod_cast Iff.rfl

/-! ## Candidates -/

/-- The ends of the interval, in quarters of a unit of the last bit. -/
theorem roundingEnds_eq {m : Nat} (hm : 0 < m) (e : Int) :
    ((roundingEnds m e).1 * 2 ^ (e - 2) : ℚ) = (m - below m e) * 2 ^ e ∧
      ((roundingEnds m e).2 * 2 ^ (e - 2) : ℚ) = (m + 1 / 2) * 2 ^ e := by
  have hquarter : (2 : ℚ) ^ (e - 2) = 2 ^ e / 4 := by
    rw [zpow_sub₀ two_ne_zero]
    norm_num
  rw [hquarter]
  constructor
  · have htest : (m = Nat.pow 2 52 && minExponent < e) = true ↔ m = 2 ^ 52 ∧ minExponent < e := by
      rw [Bool.and_eq_true, decide_eq_true_eq, decide_eq_true_eq]
      rfl
    unfold roundingEnds below
    dsimp only
    by_cases hpower : m = 2 ^ 52 ∧ minExponent < e
    · rw [if_pos (htest.mpr hpower), if_pos hpower, Nat.cast_sub (by omega)]
      push_cast
      ring
    · rw [if_neg (mt htest.mp hpower), if_neg hpower, Nat.cast_sub (by omega)]
      push_cast
      ring
  · unfold roundingEnds
    push_cast
    ring

/-- **A candidate reads back when it lies nearest to the double.** -/
theorem readsBack_iff {m : Nat} (hm : 0 < m) (e : Int) (d : Nat) (p : Int) :
    readsBack m e d p = true ↔ Rounds m e (d * 10 ^ p) := by
  obtain ⟨a, b, hside, hb, hvalue⟩ := exists_decimal d p
  obtain ⟨hlow, hhigh⟩ := roundingEnds_eq hm e
  have hunit := ratio_eq 1 (e - 2)
  have hv := ratio_pos 1 (e - 2)
  rw [Nat.cast_one, one_mul] at hunit
  rw [← hvalue]
  simp only [readsBack, hside]
  have hle : (roundingEnds m e).1 * ((ratio 1 (e - 2)).1 * b) ≤ a * (ratio 1 (e - 2)).2 ↔
      (m - below m e) * 2 ^ e ≤ (a / b : ℚ) := by rw [cross_le hb hv, hunit, hlow]
  have hge : a * (ratio 1 (e - 2)).2 ≤ (roundingEnds m e).2 * ((ratio 1 (e - 2)).1 * b) ↔
      (a / b : ℚ) ≤ (m + 1 / 2) * 2 ^ e := by rw [le_cross hb hv, hunit, hhigh]
  have hlt : (roundingEnds m e).1 * ((ratio 1 (e - 2)).1 * b) < a * (ratio 1 (e - 2)).2 ↔
      (m - below m e) * 2 ^ e < (a / b : ℚ) := by
    rw [← not_le, ← not_le, le_cross hb hv, hunit, hlow]
  have hgt : a * (ratio 1 (e - 2)).2 < (roundingEnds m e).2 * ((ratio 1 (e - 2)).1 * b) ↔
      (a / b : ℚ) < (m + 1 / 2) * 2 ^ e := by
    rw [← not_le, ← not_le, cross_le hb hv, hunit, hhigh]
  split
  · next heven =>
    rw [Bool.and_eq_true, decide_eq_true_eq, decide_eq_true_eq, hle, hge]
    refine ⟨fun h => ⟨h.1, h.2, fun hodd => ?_⟩, fun h => ⟨h.low, h.high⟩⟩
    omega
  · next hodd =>
    rw [Bool.and_eq_true, decide_eq_true_eq, decide_eq_true_eq, hlt, hgt]
    exact ⟨fun h => ⟨h.1.le, h.2.le, fun _ => h⟩, fun h => h.odd (by omega)⟩

theorem Rounds.of_between {m : Nat} {e : Int} {q : ℚ} (hlow : (m - below m e) * 2 ^ e < q)
    (hhigh : q < (m + 1 / 2) * 2 ^ e) : Rounds m e q := ⟨hlow.le, hhigh.le, fun _ => ⟨hlow, hhigh⟩⟩

theorem roundDiv_eq_or (num den : Nat) :
    roundDiv num den = num / den ∨ roundDiv num den = num / den + 1 := by
  unfold roundDiv
  dsimp only
  split_ifs <;> omega

section

variable {num den : Nat} {p : Int} {ok : Nat → Bool}

/-- What is chosen on a grid has been accepted. -/
theorem ok_of_nearestOn {k : Nat} (h : nearestOn num den p ok = some k) : ok k = true := by
  unfold nearestOn at h
  split at h
  next n d _ =>
  dsimp only at h
  split at h
  · next hdown hup =>
    obtain rfl := Option.some.inj h
    rcases roundDiv_eq_or n d with heq | heq <;> rwa [heq]
  · next hdown _ => rwa [← Option.some.inj h]
  · next _ hup => rwa [← Option.some.inj h]
  · cases h

/-- Nothing is chosen on a grid only where neither neighbour is accepted. -/
theorem exists_of_nearestOn_none (hden : 0 < den) (h : nearestOn num den p ok = none) :
    ∃ k : Nat, (k * 10 ^ p : ℚ) ≤ num / den ∧ (num / den : ℚ) < (k + 1) * 10 ^ p ∧
      ok k = false ∧ ok (k + 1) = false := by
  obtain ⟨n, d, hgrid, hd, hvalue⟩ := exists_grid num hden p
  have hten : (0 : ℚ) < 10 ^ p := zpow_pos (by norm_num) p
  have hd' : (0 : ℚ) < d := by exact_mod_cast hd
  simp only [nearestOn, hgrid] at h
  split at h
  · cases h
  · cases h
  · cases h
  · next hdown hup =>
    refine ⟨n / d, ?_, ?_, hdown, hup⟩
    · rw [← le_div_iff₀ hten, ← hvalue]
      rw [le_div_iff₀ hd']
      exact_mod_cast Nat.div_mul_le_self n d
    · rw [← div_lt_iff₀ hten, ← hvalue, div_lt_iff₀ hd']
      exact_mod_cast Nat.lt_mul_of_div_lt (Nat.lt_succ_self (n / d)) hd

end

/-! ## The leading digit -/

theorem reachesPower_iff {num den : Nat} (hden : 0 < den) (p : Int) :
    reachesPower num den p = true ↔ (10 : ℚ) ^ p ≤ num / den := by
  have hden' : (0 : ℚ) < den := by exact_mod_cast hden
  obtain ⟨k, rfl | ⟨rfl, hneg⟩⟩ := exponent_cases p
  · rw [reachesPower, if_pos (Int.natCast_nonneg k), decide_eq_true_eq, le_div_iff₀ hden',
      Int.toNat_natCast, zpow_natCast, mul_comm]
    exact_mod_cast Iff.rfl
  · rw [reachesPower, if_neg hneg, decide_eq_true_eq, le_div_iff₀ hden', neg_neg,
      Int.toNat_natCast, zpow_neg, zpow_natCast, inv_mul_le_iff₀ (by positivity), mul_comm]
    exact_mod_cast Iff.rfl

/-- The estimate of a decimal exponent from a binary length, which is at most one too high. -/
theorem ten_pow_estimate_le {bits : Int} (hlow : -1100 < bits) (hhigh : bits < 1100) :
    (10 : ℚ) ^ (bits * 30103 / 100000 - 1) ≤ 2 ^ (bits - 1) := by
  have hup : ∀ k < 1100, 10 ^ (k * 30103 / 100000) ≤ 5 * 2 ^ k := by decide +kernel
  have hdown : ∀ k < 1100, 2 ^ k ≤ 5 * 10 ^ ((k * 30103 + 99999) / 100000) := by decide +kernel
  have hten (p : Int) : (10 : ℚ) ^ (p - 1) = 10 ^ p / 10 := by
    rw [zpow_sub₀ (by norm_num), zpow_one]
  have htwo : (2 : ℚ) ^ (bits - 1) = 2 ^ bits / 2 := by rw [zpow_sub₀ two_ne_zero, zpow_one]
  rw [hten, htwo, div_le_div_iff₀ (by norm_num) two_pos]
  obtain ⟨k, rfl | ⟨rfl, hneg⟩⟩ := exponent_cases bits
  · have := hup k (by omega)
    rw [show ((k : Int) * 30103 / 100000) = ((k * 30103 / 100000 : Nat) : Int) by omega,
      zpow_natCast, zpow_natCast]
    calc (10 ^ (k * 30103 / 100000) : ℚ) * 2 ≤ (5 * 2 ^ k) * 2 := by
          gcongr
          exact_mod_cast this
      _ = 2 ^ k * 10 := by ring
  · have := hdown k (by omega)
    rw [show (-(k : Int) * 30103 / 100000) = -(((k * 30103 + 99999) / 100000 : Nat) : Int) by omega,
      zpow_neg, zpow_neg, zpow_natCast, zpow_natCast, inv_mul_eq_div, inv_mul_eq_div,
      div_le_div_iff₀ (by positivity) (by positivity)]
    calc (2 : ℚ) * 2 ^ k ≤ 2 * (5 * 10 ^ ((k * 30103 + 99999) / 100000)) := by
          gcongr
          exact_mod_cast this
      _ = 10 * 10 ^ ((k * 30103 + 99999) / 100000) := by ring

/-- **The leading digit is not put too high.** -/
theorem leading_le {num den : Nat} (hnum : 0 < num) (hden : 0 < den)
    (hlow : -1100 < (num.log2 : Int) - den.log2) (hhigh : (num.log2 : Int) - den.log2 < 1100) :
    (10 : ℚ) ^ leadingExponent num den ≤ num / den := by
  unfold leadingExponent
  dsimp only
  split_ifs with hnext hhere
  · exact (reachesPower_iff hden _).mp hnext
  · exact (reachesPower_iff hden _).mp hhere
  · exact (ten_pow_estimate_le hlow hhigh).trans (ratio_bounds hnum.ne' hden.ne').1.le

/-! ## Seventeen digits -/

section

variable {negative : Bool} {m : Nat} {e : Int}

/-- **At the seventeenth digit one of the two neighbours lies nearest to the double.** -/
theorem rounds_neighbour (hcanonical : (finite negative m e).Canonical) {p : Int} {k : Nat}
    (hleading : (10 : ℚ) ^ (p + 16) ≤ m * 2 ^ e) (hdown : (k * 10 ^ p : ℚ) ≤ m * 2 ^ e)
    (hup : (m * 2 ^ e : ℚ) < (k + 1) * 10 ^ p) :
    Rounds m e (k * 10 ^ p) ∨ Rounds m e ((k + 1) * 10 ^ p) := by
  have hunit : (0 : ℚ) < 2 ^ e := zpow_pos two_pos e
  have hbits : (m : ℚ) < 2 ^ 53 := by exact_mod_cast hcanonical.1
  have hbelow := below_bounds m e
  by_contra hneither
  obtain ⟨hdown', hup'⟩ := not_or.mp hneither
  have hlow : (k * 10 ^ p : ℚ) ≤ (m - below m e) * 2 ^ e := by
    by_contra hinside
    refine hdown' (.of_between (not_le.mp hinside) (hdown.trans_lt ?_))
    exact mul_lt_mul_of_pos_right (by linarith) hunit
  have hhigh : ((m + 1 / 2) * 2 ^ e : ℚ) ≤ (k + 1) * 10 ^ p := by
    by_contra hinside
    refine hup' (.of_between (lt_trans ?_ hup) (not_le.mp hinside))
    exact mul_lt_mul_of_pos_right (by linarith) hunit
  -- then the neighbours are further apart than seventeen digits of a double allow
  have hspacing : (1 / 2 + below m e) * 2 ^ e ≤ (10 : ℚ) ^ p := by
    have hgap : ((k + 1) * 10 ^ p : ℚ) = k * 10 ^ p + 10 ^ p := by ring
    rw [hgap] at hhigh
    linarith
  rw [zpow_add₀ (by norm_num)] at hleading
  have hwide : ((1 / 2 + below m e) * 10 ^ (16 : Int) : ℚ) * 2 ^ e ≤ m * 2 ^ e :=
    calc ((1 / 2 + below m e) * 10 ^ (16 : Int) : ℚ) * 2 ^ e
        = (1 / 2 + below m e) * 2 ^ e * 10 ^ (16 : Int) := by ring
      _ ≤ 10 ^ p * 10 ^ (16 : Int) := by gcongr
      _ ≤ m * 2 ^ e := hleading
  have hlarge := le_of_mul_le_mul_right hwide hunit
  unfold below at hlarge
  split at hlarge
  · next hpower =>
    rw [hpower.1] at hlarge
    norm_num at hlarge
  · norm_num at hlarge hbits
    linarith

/-- The first grid with a decimal that lies nearest comes before the digits run out. -/
theorem rounds_shortestFrom (hcanonical : (finite negative m e).Canonical) (hm : 0 < m) {top : Int}
    (hleading : (10 : ℚ) ^ top ≤ m * 2 ^ e) {digits fuel : Nat} (hsum : digits + fuel = 18)
    (hdigits : digits ≤ 17) : Rounds m e ((shortestFrom m e top digits fuel).1 *
      10 ^ (shortestFrom m e top digits fuel).2) := by
  induction fuel generalizing digits with
  | zero => omega
  | succ fuel ih =>
    rw [shortestFrom]
    dsimp only
    split
    · next d hchosen =>
      have haccepted := ok_of_nearestOn hchosen
      exact (readsBack_iff hm e d _).mp haccepted
    · next hnone =>
      rcases Nat.lt_or_ge digits 17 with hmore | hlast
      · exact ih (by omega) hmore
      · -- the last grid has such a decimal
        obtain ⟨k, hdown, hup, hdown', hup'⟩ := exists_of_nearestOn_none (ratio_pos m e) hnone
        rw [ratio_eq] at hdown hup
        have htop : top = top - digits + 1 + 16 := by omega
        rw [htop] at hleading
        rcases rounds_neighbour hcanonical hleading hdown hup with h | h
        · rw [(readsBack_iff hm e k _).mpr h] at hdown'
          cases hdown'
        · rw [(readsBack_iff hm e (k + 1) _).mpr (by exact_mod_cast h)] at hup'
          cases hup'

/-- Moving zeros into the exponent keeps the value. -/
theorem dropZeros_value (fuel d : Nat) (p : Int) :
    ((dropZeros fuel d p).1 * 10 ^ (dropZeros fuel d p).2 : ℚ) = d * 10 ^ p := by
  induction fuel generalizing d p with
  | zero => rfl
  | succ fuel ih =>
    rw [dropZeros]
    split
    · next hzero =>
      have hmod : d % 10 = 0 := by
        rw [Bool.and_eq_true, decide_eq_true_eq, decide_eq_true_eq] at hzero
        exact hzero.2
      have hten : (d : ℚ) = (d / 10 : Nat) * 10 := by
        exact_mod_cast (Nat.div_mul_cancel (Nat.dvd_of_mod_eq_zero hmod)).symm
      rw [ih, hten, zpow_add₀ (by norm_num), zpow_one]
      ring
    · rfl

/-- **The shortest decimal lies nearest to the double.** -/
theorem rounds_shortest (hcanonical : (finite negative m e).Canonical) (hm : 0 < m) :
    Rounds m e ((shortest m e).1 * 10 ^ (shortest m e).2) := by
  have ⟨hbits, hmin, hmax, _⟩ := hcanonical
  have hnum : 0 < (ratio m e).1 := by
    unfold ratio
    split
    · exact Nat.mul_pos hm (Nat.pow_pos two_pos)
    · exact hm
  have hlength : -1100 < ((ratio m e).1.log2 : Int) - (ratio m e).2.log2 ∧
      ((ratio m e).1.log2 : Int) - (ratio m e).2.log2 < 1100 := by
    unfold minExponent at hmin
    unfold maxExponent at hmax
    obtain ⟨k, rfl | ⟨rfl, hneg⟩⟩ := exponent_cases e
    · have hlog : (m * 2 ^ k).log2 < 53 + k := by
        rw [Nat.log2_lt (Nat.mul_pos hm (Nat.pow_pos two_pos)).ne', pow_add]
        exact Nat.mul_lt_mul_of_pos_right hbits (Nat.pow_pos two_pos)
      simp only [ratio, Int.natCast_nonneg, if_true, Int.toNat_natCast]
      change -1100 < ((m * 2 ^ k).log2 : Int) - (Nat.log2 1 : Nat) ∧
        ((m * 2 ^ k).log2 : Int) - (Nat.log2 1 : Nat) < 1100
      rw [show Nat.log2 1 = 0 by decide]
      omega
    · have hlog : m.log2 < 53 := (Nat.log2_lt hm.ne').mpr hbits
      simp only [ratio, if_neg hneg, neg_neg, Int.toNat_natCast]
      change -1100 < (m.log2 : Int) - ((2 ^ k).log2 : Nat) ∧
        (m.log2 : Int) - ((2 ^ k).log2 : Nat) < 1100
      rw [Nat.log2_two_pow]
      omega
  have hleading := leading_le hnum (ratio_pos m e) hlength.1 hlength.2
  rw [ratio_eq] at hleading
  unfold shortest
  dsimp only
  rw [dropZeros_value]
  exact rounds_shortestFrom hcanonical hm hleading rfl (by decide)

/-- **The shortest decimal is rounded back to the double.** -/
theorem ofDecimal_shortest (hcanonical : (finite negative m e).Canonical) (hm : 0 < m) :
    ofDecimal negative (shortest m e).1 (shortest m e).2 = .finite negative m e :=
  ofDecimal_of_rounds hcanonical hm (rounds_shortest hcanonical hm)

end

end ChatFlow.Double
