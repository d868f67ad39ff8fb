import ChatFlow.Number.Decimal
import ChatFlow.Proofs.Number.Rounding
import ChatFlow.Proofs.Results

/-!
# Doubles as rounding leaves them

A value can be written with several mantissas. Rounding always leaves the one that has 53 bits, or
the smallest exponent.

* `Canonical` — the form, `canonical_ofRatio` — **in which rounding leaves every double**;
* `Rounds` — the values that lie nearest to a double;
* `ofRatio_of_rounds`, `ofDecimal_of_rounds` — **whatever lies nearest to a double is rounded to
  it**;
* `Number.canonical_add` — sums are in this form too.
-/

namespace ChatFlow.Double

/-- **The form in which rounding leaves a double**: a mantissa of 53 bits, or of fewer bits at the
smallest exponent. -/
def Canonical : Double → Prop
  | .nan => True
  | .infinity _ => True
  | .finite _ m e =>
    m < 2 ^ 53 ∧ minExponent ≤ e ∧ e ≤ maxExponent ∧ (minExponent < e → 2 ^ 52 ≤ m)

theorem canonical_zero (negative : Bool) : (zero negative).Canonical := by
  refine ⟨by decide, le_refl _, by decide, fun h => absurd h (lt_irrefl _)⟩

theorem canonical_settle (negative : Bool) {m : Nat} {e : Int} (hm : m ≤ 2 ^ 53)
    (he : minExponent ≤ e) (hbits : minExponent < e → 2 ^ 52 ≤ m) :
    (settle negative m e).Canonical := by
  unfold settle
  by_cases hcarry : m = Nat.pow 2 53
  · rw [if_pos hcarry]
    dsimp only
    split
    · trivial
    · next hrange => exact ⟨by decide, by omega, not_lt.mp hrange, fun _ => le_refl _⟩
  · rw [if_neg hcarry]
    dsimp only
    split
    · trivial
    · next hrange => exact ⟨lt_of_le_of_ne hm hcarry, he, not_lt.mp hrange, hbits⟩

/-- **Rounding leaves every double in this form.** -/
theorem canonical_ofRatio (negative : Bool) (num : Nat) {den : Nat} (hden : 0 < den) :
    (ofRatio negative num den).Canonical := by
  rcases Nat.eq_zero_or_pos num with rfl | hnum
  · rw [ofRatio, if_pos rfl]
    exact canonical_zero negative
  · rw [ofRatio_eq_settle negative hnum.ne']
    exact canonical_settle negative (wholes_le hden) (le_grid num den) (le_wholes hnum hden)

theorem canonical_ofDyadic (negative : Bool) (m : Nat) (e : Int) :
    (ofDyadic negative m e).Canonical := by
  unfold ofDyadic
  split
  · exact canonical_ofRatio negative _ one_pos
  · exact canonical_ofRatio negative _ (Nat.pow_pos two_pos)

theorem canonical_ofInt (n : Int) : (ofInt n).Canonical := canonical_ofRatio _ _ one_pos

theorem canonical_ofDecimal (negative : Bool) (m : Nat) (e : Int) :
    (ofDecimal negative m e).Canonical := by
  unfold ofDecimal
  split_ifs
  · exact canonical_zero negative
  · trivial
  · exact canonical_zero negative
  · exact canonical_ofRatio negative _ one_pos
  · exact canonical_ofRatio negative _ (Nat.pow_pos (by decide))

theorem canonical_add (x y : Double) : (x.add y).Canonical := by
  have hsum (zeroNegative : Bool) (n e : Int) : (ofSum zeroNegative n e).Canonical := by
    unfold ofSum
    split
    · exact canonical_zero zeroNegative
    · exact canonical_ofDyadic _ _ _
  match x, y with
  | .nan, _ => trivial
  | .infinity _, .nan => trivial
  | .finite .., .nan => trivial
  | .infinity a, .infinity b =>
    rw [add]
    split <;> trivial
  | .infinity _, .finite .. => trivial
  | .finite .., .infinity _ => trivial
  | .finite .., .finite .. => exact hsum _ _ _

theorem Canonical.roundedTo {x : Double} (h : x.Canonical) (places : Nat) :
    (x.roundedTo places).Canonical := by
  cases x with
  | finite negative m e => exact canonical_ofDecimal _ _ _
  | nan => exact h
  | infinity negative => exact h

/-! ## The values nearest to a double -/

/-- How far below a double, in units of its last bit, lies the end of what is rounded to it. Below
a power of two the next double is only half as far away. -/
def below (m : Nat) (e : Int) : ℚ := if m = 2 ^ 52 ∧ minExponent < e then 1 / 4 else 1 / 2

theorem below_bounds (m : Nat) (e : Int) : 0 < below m e ∧ below m e ≤ 1 / 2 := by
  unfold below
  split <;> norm_num

/-- **The values that lie nearest to `m · 2 ^ e`**: those between the ends, and the ends themselves
where the mantissa is even. -/
structure Rounds (m : Nat) (e : Int) (q : ℚ) : Prop where
  /-- not below the lower end -/
  low : (m - below m e) * 2 ^ e ≤ q
  /-- not above the upper end -/
  high : q ≤ (m + 1 / 2) * 2 ^ e
  /-- at neither end where the mantissa is odd -/
  odd (h : m % 2 = 1) : (m - below m e) * 2 ^ e < q ∧ q < (m + 1 / 2) * 2 ^ e

/-- A decimal that lies nearest to a positive double is not zero. -/
theorem Rounds.ne_zero {m d : Nat} {e p : Int} (h : Rounds m e (d * 10 ^ p)) (hm : 0 < m) :
    d ≠ 0 := by
  rintro rfl
  have hlow := h.low
  have hone : (1 : ℚ) ≤ m := by exact_mod_cast hm
  have hpos : 0 < (m - below m e) * (2 : ℚ) ^ e :=
    mul_pos (by linarith [(below_bounds m e).2]) (zpow_pos two_pos e)
  rw [Nat.cast_zero, zero_mul] at hlow
  exact absurd hpos (not_lt.mpr hlow)

/-- A quotient at most one half off a natural is rounded to it, and that far only if it is even. -/
theorem roundDiv_eq {num den k : Nat} (hden : 0 < den) (hlow : (k : ℚ) - 1 / 2 ≤ num / den)
    (hhigh : (num / den : ℚ) ≤ k + 1 / 2)
    (heven : (num / den : ℚ) = k + 1 / 2 ∨ (num / den : ℚ) = k - 1 / 2 → k % 2 = 0) :
    roundDiv num den = k := by
  obtain ⟨⟨hlow', hhigh'⟩, heven'⟩ := roundDiv_near num hden
  -- two naturals so near are neighbours with the quotient half way between, and one of them is odd
  rcases lt_trichotomy (roundDiv num den) k with hlt | heq | hlt
  · have hnext : (roundDiv num den : ℚ) + 1 ≤ k := by exact_mod_cast hlt
    have hsame : (k : ℚ) = roundDiv num den + 1 := by linarith
    have he := heven (.inr (by linarith))
    have he' := heven' (.inl (by linarith))
    have : k = roundDiv num den + 1 := by exact_mod_cast hsame
    omega
  · exact heq
  · have hnext : (k : ℚ) + 1 ≤ roundDiv num den := by exact_mod_cast hlt
    have hsame : (roundDiv num den : ℚ) = k + 1 := by linarith
    have he := heven (.inl (by linarith))
    have he' := heven' (.inr (by linarith))
    have : roundDiv num den = k + 1 := by exact_mod_cast hsame
    omega

section

variable {num den : Nat} {e : Int}

/-- The exponent of a ratio is told by how many bits it has before the point. -/
theorem grid_eq (hnum : 0 < num) (hden : 0 < den) (hmin : minExponent ≤ e)
    (hlt : (num / den : ℚ) < 2 ^ (e + 53))
    (hle : minExponent < e → (2 : ℚ) ^ (e + 52) ≤ num / den) : grid num den = e := by
  rcases lt_trichotomy (grid num den) e with hless | heq | hmore
  · have hall := (hle (lt_of_le_of_lt (le_grid num den) hless)).trans_lt (lt_grid num hden)
    rw [zpow_lt_zpow_iff_right₀ one_lt_two] at hall
    omega
  · exact heq
  · have hall := (grid_le hnum hden (lt_of_le_of_lt hmin hmore)).trans_lt hlt
    rw [zpow_lt_zpow_iff_right₀ one_lt_two] at hall
    omega

/-- The mantissa of a ratio is the natural nearest to it in units of the last bit. -/
theorem wholes_eq {k : Nat} (hden : 0 < den) (hgrid : grid num den = e)
    (hlow : ((k : ℚ) - 1 / 2) * 2 ^ e ≤ num / den) (hhigh : (num / den : ℚ) ≤ (k + 1 / 2) * 2 ^ e)
    (heven : (num / den : ℚ) = (k + 1 / 2) * 2 ^ e ∨ (num / den : ℚ) = (k - 1 / 2) * 2 ^ e →
      k % 2 = 0) : wholes num den = k := by
  have hunit : (0 : ℚ) < 2 ^ e := zpow_pos two_pos e
  unfold wholes
  rw [hgrid]
  apply roundDiv_eq (scaled_pos num hden e) <;> rw [scaled_eq]
  · rwa [le_div_iff₀ hunit]
  · rwa [div_le_iff₀ hunit]
  · rwa [div_eq_iff hunit.ne', div_eq_iff hunit.ne']

/-- **A ratio that lies nearest to a double is rounded to it.** -/
theorem ofRatio_of_rounds {negative : Bool} {m : Nat} (hcanonical : (finite negative m e).Canonical)
    (hm : 0 < m) (hden : 0 < den) (h : Rounds m e (num / den)) :
    ofRatio negative num den = .finite negative m e := by
  obtain ⟨hbits, hmin, hmax, hfull⟩ := hcanonical
  have hunit : (0 : ℚ) < 2 ^ e := zpow_pos two_pos e
  obtain ⟨hbelow, hhalf⟩ := below_bounds m e
  have hone : (1 : ℚ) ≤ m := by exact_mod_cast hm
  have hlow : ((m : ℚ) - 1 / 2) * 2 ^ e ≤ num / den :=
    le_trans (mul_le_mul_of_nonneg_right (by linarith) hunit.le) h.low
  have hnum : 0 < num := by
    have hpos : (0 : ℚ) < num / den := lt_of_lt_of_le (mul_pos (by linarith) hunit) hlow
    rw [div_pos_iff_of_pos_right (by exact_mod_cast hden)] at hpos
    exact_mod_cast hpos
  have hsplit (k : Int) : (2 : ℚ) ^ (e + k) = 2 ^ k * 2 ^ e := by
    rw [zpow_add₀ two_ne_zero, mul_comm]
  rw [ofRatio_eq_settle negative hnum.ne']
  by_cases hcase : minExponent < e → (2 : ℚ) ^ (e + 52) ≤ num / den
  · -- the ratio has as many bits before the point as the double
    have hgrid : grid num den = e := by
      refine grid_eq hnum hden hmin (h.high.trans_lt ?_) hcase
      rw [hsplit]
      refine mul_lt_mul_of_pos_right ?_ hunit
      have : (m : ℚ) + 1 ≤ 2 ^ 53 := by exact_mod_cast hbits
      rw [zpow_ofNat]
      linarith
    have hwholes : wholes num den = m := by
      refine wholes_eq hden hgrid hlow h.high fun htie => ?_
      by_contra hodd
      obtain ⟨hlower, hupper⟩ := h.odd (by omega)
      rcases htie with htie | htie
      · exact absurd htie hupper.ne
      · rw [htie, mul_lt_mul_iff_left₀ hunit] at hlower
        linarith
    unfold settle
    rw [hgrid, hwholes, if_neg (show m ≠ Nat.pow 2 53 from Nat.ne_of_lt hbits)]
    exact if_neg (not_lt.mpr hmax)
  · -- it lies just below a power of two, and is rounded up to it
    obtain ⟨hlarge, hless⟩ : minExponent < e ∧ (num / den : ℚ) < 2 ^ (e + 52) := by
      simpa using hcase
    rw [hsplit] at hless
    obtain rfl : m = 2 ^ 52 := by
      by_contra hne
      have hmore : (2 : ℚ) ^ 52 + 1 ≤ m := by
        have := hfull hlarge
        exact_mod_cast (by omega : 2 ^ 52 + 1 ≤ m)
      have := hlow.trans_lt hless
      rw [mul_lt_mul_iff_left₀ hunit, zpow_ofNat] at this
      linarith
    have hend := h.low
    rw [below, if_pos ⟨rfl, hlarge⟩] at hend
    have hhalfUnit : (2 : ℚ) ^ e = 2 * 2 ^ (e - 1) := by
      rw [zpow_sub₀ two_ne_zero]
      ring
    rw [hhalfUnit] at hend hless
    have hsmall : (0 : ℚ) < 2 ^ (e - 1) := zpow_pos two_pos _
    push_cast at hend
    have hgrid : grid num den = e - 1 := by
      refine grid_eq hnum hden (by omega) ?_ fun _ => ?_
      · rw [zpow_add₀ two_ne_zero]
        norm_num at hless ⊢
        linarith
      · rw [zpow_add₀ two_ne_zero]
        norm_num at hend ⊢
        linarith
    have hwholes : wholes num den = 2 ^ 53 := by
      refine wholes_eq hden hgrid ?_ ?_ fun _ => by norm_num
      · push_cast
        norm_num at hend ⊢
        linarith
      · push_cast
        norm_num at hless ⊢
        linarith
    unfold settle
    rw [hgrid, hwholes, if_pos (show 2 ^ 53 = Nat.pow 2 53 from rfl)]
    dsimp only
    rw [sub_add_cancel]
    exact if_neg (not_lt.mpr hmax)

end

/-! ## Decimals -/

/-- A power of ten that a binary length allows for. -/
theorem ten_pow_le (bits : Nat) : 10 ^ (bits * 3 / 10) ≤ 2 ^ bits := by
  have hpow : (10 ^ (bits * 3 / 10)) ^ 10 ≤ (2 ^ bits) ^ 10 := by
    rw [← pow_mul, ← pow_mul, mul_comm bits 10, pow_mul 2 10 bits]
    calc 10 ^ (bits * 3 / 10 * 10) ≤ 10 ^ (3 * bits) := Nat.pow_le_pow_right (by decide) (by omega)
      _ = (10 ^ 3) ^ bits := pow_mul 10 3 bits
      _ ≤ (2 ^ 10) ^ bits := Nat.pow_le_pow_left (by decide) bits
  exact (Nat.pow_le_pow_iff_left (by decide)).mp hpow

theorem two_pow_le (bits : Nat) : 2 ^ (bits + 1) ≤ 10 ^ (bits / 3 + 1) :=
  calc 2 ^ (bits + 1) ≤ 2 ^ (3 * (bits / 3 + 1)) := Nat.pow_le_pow_right (by decide) (by omega)
    _ = (2 ^ 3) ^ (bits / 3 + 1) := pow_mul 2 3 _
    _ ≤ 10 ^ (bits / 3 + 1) := Nat.pow_le_pow_left (by decide) _

/-- **A decimal that lies nearest to a double is rounded to it**, however it is written. -/
theorem ofDecimal_of_rounds {negative : Bool} {m : Nat} {e : Int}
    (hcanonical : (finite negative m e).Canonical) (hm : 0 < m) {d : Nat} {p : Int}
    (h : Rounds m e (d * 10 ^ p)) : ofDecimal negative d p = .finite negative m e := by
  obtain ⟨hbits, hmin, hmax, hfull⟩ := hcanonical
  have hunit : (0 : ℚ) < 2 ^ e := zpow_pos two_pos e
  have hten : (0 : ℚ) < 10 ^ p := zpow_pos (by norm_num) p
  have hone : (1 : ℚ) ≤ m := by exact_mod_cast hm
  have hsmallest : (2 : ℚ) ^ (-1075 : Int) ≤ d * 10 ^ p := by
    have hend := below_bounds m e
    calc (2 : ℚ) ^ (-1075 : Int) = 1 / 2 * 2 ^ minExponent := by
          rw [one_div, ← zpow_neg_one, ← zpow_add₀ two_ne_zero]
          rfl
      _ ≤ (m - below m e) * 2 ^ e := by
          refine mul_le_mul (by linarith [hend.2]) ?_ (by positivity) (by linarith [hend.2])
          exact zpow_le_zpow_right₀ one_le_two hmin
      _ ≤ d * 10 ^ p := h.low
  have hlargest : (d * 10 ^ p : ℚ) < 2 ^ (1024 : Int) := by
    have hmore : (m : ℚ) + 1 ≤ 2 ^ 53 := by exact_mod_cast hbits
    calc (d * 10 ^ p : ℚ) ≤ (m + 1 / 2) * 2 ^ e := h.high
      _ < 2 ^ 53 * 2 ^ e := by
          refine mul_lt_mul_of_pos_right ?_ hunit
          linarith
      _ ≤ 2 ^ 53 * 2 ^ maxExponent := by
          gcongr
          · exact one_le_two
      _ = 2 ^ (1024 : Int) := by
          rw [maxExponent, ← zpow_natCast, ← zpow_add₀ two_ne_zero]
          norm_num
  have hd := h.ne_zero hm
  -- a decimal of this size is not settled before its power is computed
  have hsmall : ¬ 310 < p + (d.log2 * 3 / 10 : Nat) := by
    intro hhuge
    refine absurd hlargest (not_lt.mpr ?_)
    have hlog : (10 : ℚ) ^ (d.log2 * 3 / 10) ≤ d := by
      exact_mod_cast (ten_pow_le d.log2).trans (Nat.log2_self_le hd)
    calc (2 : ℚ) ^ (1024 : Int) ≤ 10 ^ (311 : Int) := by
          exact_mod_cast (by decide +kernel : 2 ^ 1024 ≤ 10 ^ 311)
      _ ≤ 10 ^ ((d.log2 * 3 / 10 : Nat) + p) := zpow_le_zpow_right₀ (by norm_num) (by omega)
      _ = 10 ^ (d.log2 * 3 / 10) * 10 ^ p := by rw [zpow_add₀ (by norm_num), zpow_natCast]
      _ ≤ d * 10 ^ p := by gcongr
  have hlarge : ¬ p + (d.log2 / 3 + 1 : Nat) < -330 := by
    intro htiny
    refine absurd hsmallest (not_le.mpr ?_)
    have hlog : (d : ℚ) < 10 ^ (d.log2 / 3 + 1) := by
      exact_mod_cast Nat.lt_log2_self.trans_le (two_pow_le d.log2)
    calc (d * 10 ^ p : ℚ) < 10 ^ (d.log2 / 3 + 1) * 10 ^ p := by gcongr
      _ = 10 ^ ((d.log2 / 3 + 1 : Nat) + p) := by rw [zpow_add₀ (by norm_num), zpow_natCast]
      _ ≤ 10 ^ (-331 : Int) := zpow_le_zpow_right₀ (by norm_num) (by omega)
      _ ≤ 2 ^ (-1075 : Int) := by
          rw [zpow_neg, zpow_neg]
          refine inv_anti₀ (zpow_pos two_pos _) ?_
          exact_mod_cast (by decide +kernel : 2 ^ 1075 ≤ 10 ^ 331)
  rw [ofDecimal, if_neg hd, if_neg hsmall, if_neg hlarge]
  split
  · next hp =>
    obtain ⟨k, rfl⟩ := Int.eq_ofNat_of_zero_le hp
    refine ofRatio_of_rounds ⟨hbits, hmin, hmax, hfull⟩ hm one_pos ?_
    simpa using h
  · next hp =>
    obtain ⟨k, hk⟩ := Int.eq_ofNat_of_zero_le (by omega : 0 ≤ -p)
    obtain rfl : p = -(k : Int) := by omega
    refine ofRatio_of_rounds ⟨hbits, hmin, hmax, hfull⟩ hm (Nat.pow_pos (by decide)) ?_
    simpa [div_eq_mul_inv] using h

end ChatFlow.Double

/-! ## Numbers -/

namespace ChatFlow.Number

/-- A number that is a double, if at all, in the form in which rounding leaves it. -/
def Canonical : Number → Prop
  | .int _ => True
  | .double x => x.Canonical

/-- **A sum is in this form**, whatever its sides are. -/
theorem canonical_add {a b n : Number} (h : a.add b = .ok n) : n.Canonical := by
  have hdoubles {x y : Except Fault Double}
      (h : (do return .double (Double.add (← x) (← y)) : Except Fault Number) = .ok n) :
      n.Canonical := by
    obtain ⟨x, -, h⟩ := exists_of_bind_ok h
    obtain ⟨y, -, h⟩ := exists_of_bind_ok h
    obtain rfl := Except.ok.inj h
    exact Double.canonical_add x y
  cases a with
  | int a =>
    cases b with
    | int b =>
      obtain rfl := Except.ok.inj h
      trivial
    | double y => exact hdoubles (x := doubleOfInt a) (y := .ok y) h
  | double x => exact hdoubles (x := .ok x) (y := b.toDouble) h

theorem Canonical.tidy {n : Number} (h : n.Canonical) : n.tidy.Canonical := by
  cases n with
  | int n => trivial
  | double x =>
    rw [Number.tidy]
    split
    · split
      · trivial
      · exact Double.Canonical.roundedTo h 2
    · exact h

end ChatFlow.Number
