import ChatFlow.Proofs.Number.Order
import ChatFlow.Proofs.Number.Range
import ChatFlow.Proofs.Number.Shortest

/-!
# Shares and sums

What rounding does to sums of numbers that are not negative, and to shares of them.

* `Double.ofRatio_le` — rounding keeps the order, up to the infinity;
* `Number.Nonneg` — a number that is not negative, `Number.Nonneg.add` — **and sums of such numbers**;
* `Number.Tally` — what sums come to, `Number.Tally.add_zero` — a zero adds nothing to it;
* `Double.Share` — a double from zero up to one, `Number.share_le` — **a share of a tally is no more than
  the tally**.
-/

namespace ChatFlow

open ExactValue

namespace Double

/-! ## Rounding -/

section

variable {num den : Nat}

theorem exactValue_plain (m : Nat) (e : Int) :
    (finite false m e).exactValue = ofRat (m * 2 ^ e) := rfl

/-- The value of a ratio that has a finite double. -/
theorem value_ofRatio {negative s : Bool} {m : Nat} {e : Int}
    (h : ofRatio negative num den = .finite s m e) :
    s = negative ∧ (m * 2 ^ e : ℚ) = nearest num den := by
  rcases Nat.eq_zero_or_pos num with rfl | hnum
  · obtain ⟨rfl, rfl, rfl⟩ := Double.finite.inj h
    exact ⟨rfl, by rw [nearest_zero, Nat.cast_zero, zero_mul]⟩
  rw [ofRatio_eq_settle negative hnum.ne', settle] at h
  by_cases hcarry : wholes num den = 2 ^ 53
  · rw [if_pos (show wholes num den = Nat.pow 2 53 from hcarry)] at h
    dsimp only at h
    split at h
    · cases h
    · obtain ⟨rfl, rfl, rfl⟩ := Double.finite.inj h
      refine ⟨rfl, ?_⟩
      rw [nearest, hcarry, zpow_add₀ two_ne_zero]
      norm_num
      ring
  · rw [if_neg (show wholes num den ≠ Nat.pow 2 53 from hcarry)] at h
    dsimp only at h
    split at h
    · cases h
    · obtain ⟨rfl, rfl, rfl⟩ := Double.finite.inj h
      exact ⟨rfl, rfl⟩

/-- A ratio in range has the value that it is rounded to. -/
theorem exactValue_ofRatio (hden : 0 < den) (h : num < overflow * den) :
    (ofRatio false num den).exactValue = ofRat (nearest num den) := by
  obtain ⟨m, e, hfinite⟩ := ofRatio_finite false hden h
  rw [hfinite, exactValue_plain, (value_ofRatio hfinite).2]

/-- **Rounding keeps the order**, up to the infinity. -/
theorem ofRatio_le {num' den' : Nat} (hden : 0 < den) (hden' : 0 < den')
    (h : (num / den : ℚ) ≤ num' / den') :
    (ofRatio false num den).exactValue ≤ (ofRatio false num' den').exactValue := by
  rcases le_or_gt (overflow * den') num' with hinf | hfinite'
  · rw [ofRatio_infinity false hden' hinf]
    exact le_top
  · have hfinite : num < overflow * den := by
      have hcross : num * den' ≤ num' * den := by
        rw [div_le_div_iff₀ (by exact_mod_cast hden) (by exact_mod_cast hden')] at h
        exact_mod_cast h
      have hless : num * den' < overflow * den * den' := by
        calc num * den' ≤ num' * den := hcross
          _ < overflow * den' * den := Nat.mul_lt_mul_of_pos_right hfinite' hden
          _ = overflow * den * den' := Nat.mul_right_comm _ _ _
      exact Nat.lt_of_mul_lt_mul_right hless
    rw [exactValue_ofRatio hden hfinite, exactValue_ofRatio hden' hfinite']
    exact strictMono_ofRat.monotone (nearest_mono hden hden' h)

end

theorem ofDyadic_eq (negative : Bool) (m : Nat) (e : Int) :
    ofDyadic negative m e = ofRatio negative (ratio m e).1 (ratio m e).2 := by
  unfold ofDyadic ratio
  split <;> rfl

/-- **A double is rounded to itself**, however it is written. -/
theorem ofRatio_self {negative : Bool} {m num den : Nat} {e : Int}
    (hcanonical : (finite negative m e).Canonical) (hm : 0 < m) (hden : 0 < den)
    (h : (num / den : ℚ) = m * 2 ^ e) : ofRatio negative num den = .finite negative m e := by
  have hunit : (0 : ℚ) < 2 ^ e := zpow_pos two_pos e
  obtain ⟨hbelow, -⟩ := below_bounds m e
  refine ofRatio_of_rounds hcanonical hm hden (.of_between ?_ ?_) <;> rw [h] <;>
    exact mul_lt_mul_of_pos_right (by linarith) hunit

theorem ratio_zero (e : Int) : (ratio 0 e).1 = 0 := by
  rw [ratio]
  split <;> simp

theorem exactValue_ofRatio_zero (den : Nat) : (ofRatio false 0 den).exactValue = ofRat 0 := by
  simp [ofRatio, zero, exactValue_finite, signed]

/-- The value of a double, rounded. -/
theorem exactValue_ofRatio_ratio {m : Nat} {e : Int} (hcanonical : (finite false m e).Canonical) :
    (ofRatio false (ratio m e).1 (ratio m e).2).exactValue = ofRat (m * 2 ^ e) := by
  rcases Nat.eq_zero_or_pos m with rfl | hm
  · rw [ratio_zero, exactValue_ofRatio_zero, Nat.cast_zero, zero_mul]
  · rw [ofRatio_self hcanonical hm (ratio_pos m e) (ratio_eq m e), exactValue_plain]

/-- What is no more than a double is rounded to no more than the double. -/
theorem ofRatio_le_of_le {num den m : Nat} {e : Int} (hden : 0 < den)
    (hcanonical : (finite false m e).Canonical) (h : (num / den : ℚ) ≤ m * 2 ^ e) :
    (ofRatio false num den).exactValue ≤ ofRat (m * 2 ^ e) := by
  rw [← exactValue_ofRatio_ratio hcanonical]
  exact ofRatio_le hden (ratio_pos m e) (by rwa [ratio_eq])

theorem one_le_nearest {k : Nat} (hk : 1 ≤ k) : 1 ≤ nearest k 1 := by
  rw [← Nat.cast_one]
  exact le_nearest one_pos (by norm_num) (by rwa [one_mul])

/-- What is less by a unit of 53 bits or more is rounded to less. -/
theorem nearest_lt {num den : Nat} (hden : 0 < den) {q : ℚ} (hq : 1 ≤ q)
    (h : (num / den : ℚ) ≤ (1 - 2 ^ (-53 : Int)) * q) : nearest num den < q := by
  have hnear := nearest_near num hden
  rcases Nat.eq_zero_or_pos num with rfl | hnum
  · rw [nearest_zero]
    linarith
  rcases (le_grid num den).eq_or_lt with heq | hfine
  · have htiny : (2 : ℚ) ^ minExponent ≤ 2 ^ (-53 : Int) :=
      zpow_le_zpow_right₀ one_le_two (by decide)
    rw [← heq] at hnear
    norm_num at htiny h
    linarith
  · have hlow := grid_le hnum hden hfine
    rw [zpow_add₀ two_ne_zero] at hlow
    norm_num at hlow h
    linarith

end Double

/-! ## Numbers that are not negative -/

namespace Number

variable {a b c : Number}

theorem isNaN_of_atLeast (h : a.atLeast b = true) : a.isNaN = false ∧ b.isNaN = false := by
  rcases a with m | (_ | _ | _) <;> rcases b with n | (_ | _ | _) <;>
    first | exact ⟨rfl, rfl⟩ | cases h

/-- **A number that is not negative.** -/
structure Nonneg (n : Number) : Prop where
  /-- it is a number -/
  number : n.isNaN = false
  /-- and at least zero -/
  low : ofRat 0 ≤ n.exactValue

theorem exactValue_zero : (Number.int 0).exactValue = ofRat 0 := congrArg ofRat Int.cast_zero

theorem nonneg_iff : a.atLeast (.int 0) = true ↔ a.Nonneg := by
  constructor
  · intro h
    have hnumber := (isNaN_of_atLeast h).1
    rw [atLeast_iff hnumber rfl, exactValue_zero] at h
    exact ⟨hnumber, h⟩
  · intro h
    rw [atLeast_iff h.number rfl, exactValue_zero]
    exact h.low

theorem nonneg_int {n : Int} : (Number.int n).Nonneg ↔ 0 ≤ n := by
  have hvalue : ofRat 0 ≤ (Number.int n).exactValue ↔ (0 : ℚ) ≤ n := strictMono_ofRat.le_iff_le
  constructor
  · intro h
    exact_mod_cast hvalue.mp h.low
  · intro h
    exact ⟨rfl, hvalue.mpr (by exact_mod_cast h)⟩

end Number

namespace Double

theorem signed_eq {negative : Bool} {m : Nat} (h : negative = true → m = 0) :
    signed negative m = m := by
  cases negative with
  | false => rfl
  | true => simp [signed, h rfl]

theorem nonneg_finite {negative : Bool} {m : Nat} {e : Int} :
    (Number.double (finite negative m e)).Nonneg ↔ (negative = true → m = 0) := by
  have hunit : (0 : ℚ) < 2 ^ e := zpow_pos two_pos e
  have hvalue : ofRat 0 ≤ (Number.double (finite negative m e)).exactValue ↔
      (0 : ℚ) ≤ signed negative m * 2 ^ e := strictMono_ofRat.le_iff_le
  constructor
  · rintro ⟨-, hlow⟩ rfl
    have hneg : (0 : ℚ) ≤ (-(m : Int) : Int) * 2 ^ e := hvalue.mp hlow
    have hsign : (0 : ℚ) ≤ (-(m : Int) : Int) := nonneg_of_mul_nonneg_left hneg hunit
    have : (0 : Int) ≤ -(m : Int) := by exact_mod_cast hsign
    omega
  · intro h
    refine ⟨rfl, hvalue.mpr ?_⟩
    rw [signed_eq h]
    positivity

/-- What is not negative is the infinity, or has no sign unless it is zero. -/
theorem nonneg_cases {x : Double} (h : (Number.double x).Nonneg) :
    x = .infinity false ∨ ∃ negative m e, x = .finite negative m e ∧ (negative = true → m = 0) := by
  cases x with
  | nan => cases h.number
  | infinity negative =>
    cases negative with
    | false => exact .inl rfl
    | true => exact absurd h.low (not_le.mpr (bot_lt_ofRat 0))
  | finite negative m e => exact .inr ⟨negative, m, e, rfl, nonneg_finite.1 h⟩

theorem nonneg_infinity : (Number.double (.infinity false)).Nonneg := ⟨rfl, le_top⟩

theorem nonneg_ofRatio (num : Nat) {den : Nat} (hden : 0 < den) :
    (Number.double (ofRatio false num den)).Nonneg := by
  rcases le_or_gt (overflow * den) num with hinf | hfinite
  · rw [ofRatio_infinity false hden hinf]
    exact nonneg_infinity
  · obtain ⟨m, e, heq⟩ := ofRatio_finite false hden hfinite
    rw [heq]
    exact nonneg_finite.2 nofun

theorem nonneg_add {x y : Double} (hx : (Number.double x).Nonneg) (hy : (Number.double y).Nonneg) :
    (Number.double (x.add y)).Nonneg := by
  obtain rfl | ⟨s, m, e, rfl, hm⟩ := nonneg_cases hx <;>
    obtain rfl | ⟨t, k, i, rfl, hk⟩ := nonneg_cases hy
  · exact nonneg_infinity
  · exact nonneg_infinity
  · exact nonneg_infinity
  · have hscale {negative : Bool} {m : Nat} (h : negative = true → m = 0) (f : Int) :
        0 ≤ signedAt (min e i) negative m f := by
      rw [signedAt, signed_eq fun hs => by rw [h hs, Nat.zero_mul]]
      exact Int.natCast_nonneg _
    have hsum := Int.add_nonneg (hscale hm e) (hscale hk i)
    rw [add, ofSum]
    split
    · exact nonneg_finite.2 fun _ => rfl
    · rw [decide_eq_false (not_lt.mpr hsum), ofDyadic_eq]
      exact nonneg_ofRatio _ (ratio_pos _ _)

end Double

/-! ## Sums -/

namespace Number

variable {a b c : Number}

/-- The double of a natural is the natural, rounded. -/
theorem exists_of_doubleOfInt {k : Nat} {x : Double} (h : doubleOfInt k = .ok x) : ∃ m e,
    x = .finite false m e ∧ Double.ofRatio false k 1 = .finite false m e := by
  rw [doubleOfInt, Double.ofInt, decide_eq_false (not_lt.mpr (Int.natCast_nonneg k)),
    Int.natAbs_natCast] at h
  split at h
  · next s m e heq =>
    obtain rfl := Except.ok.inj h
    obtain ⟨rfl, -⟩ := Double.value_ofRatio heq
    exact ⟨m, e, rfl, heq⟩
  · cases h

theorem Nonneg.exists_natCast {n : Int} (h : (Number.int n).Nonneg) : ∃ k : Nat, n = k :=
  Int.eq_ofNat_of_zero_le (nonneg_int.1 h)

theorem Nonneg.toDouble (h : a.Nonneg) {x : Double} (hx : a.toDouble = .ok x) :
    (Number.double x).Nonneg := by
  cases a with
  | double y =>
    obtain rfl := Except.ok.inj hx
    exact h
  | int n =>
    obtain ⟨k, rfl⟩ := h.exists_natCast
    obtain ⟨m, e, rfl, -⟩ := exists_of_doubleOfInt hx
    exact Double.nonneg_finite.2 nofun

/-- **An operation beside a double** is done in doubles. -/
theorem exists_of_combine {onInts : Int → Int → Int} {onDoubles : Double → Double → Double}
    (h : combine onInts onDoubles a b = .ok c) :
    (∃ m n, a = .int m ∧ b = .int n ∧ c = .int (onInts m n)) ∨
      ∃ x y, a.toDouble = .ok x ∧ b.toDouble = .ok y ∧ c = .double (onDoubles x y) := by
  rcases a with m | x <;> rcases b with n | y
  · exact .inl ⟨m, n, rfl, rfl, (Except.ok.inj h).symm⟩
  all_goals
    obtain ⟨x, hx, h⟩ := exists_of_bind_ok h
    obtain ⟨y, hy, h⟩ := exists_of_bind_ok h
    exact .inr ⟨x, y, hx, hy, (Except.ok.inj h).symm⟩

/-- **What sums come to**, where nothing negative is summed up. -/
structure Tally (n : Number) : Prop extends Nonneg n where
  /-- a double is in the usual form -/
  canonical : ∀ x, n = .double x → x.Canonical

theorem tally_zero : Tally (.int 0) := ⟨nonneg_int.2 le_rfl, nofun⟩

/-- **A sum of numbers that are not negative** is not negative. -/
theorem Nonneg.add (ha : a.Nonneg) (hb : b.Nonneg) (h : a.add b = .ok c) : c.Tally := by
  obtain ⟨m, n, rfl, rfl, rfl⟩ | ⟨x, y, hx, hy, rfl⟩ := exists_of_combine h
  · exact ⟨nonneg_int.2 (Int.add_nonneg (nonneg_int.1 ha) (nonneg_int.1 hb)), nofun⟩
  · refine ⟨Double.nonneg_add (ha.toDouble hx) (hb.toDouble hy), fun z hz => ?_⟩
    obtain rfl := Number.double.inj hz
    exact Double.canonical_add x y

end Number

/-- **A zero adds nothing** to a double. -/
theorem Double.exactValue_add_zero {x : Double} (hcanonical : x.Canonical)
    (hx : (Number.double x).Nonneg) : (x.add (zero false)).exactValue = x.exactValue := by
  obtain rfl | ⟨negative, m, e, rfl, hm⟩ := nonneg_cases hx
  · rfl
  have hlow : min e minExponent = minExponent := min_eq_right hcanonical.2.1
  have hnothing : signedAt minExponent false 0 minExponent = 0 := rfl
  -- at the smallest exponent the mantissa is a natural
  have hsigned : signedAt minExponent negative m e = (m * 2 ^ (e - minExponent).toNat : Nat) :=
    signed_eq fun hs => by rw [hm hs, Nat.zero_mul]
  have hvalue := signedAt_eq negative m hcanonical.2.1
  rw [hsigned, signed_eq hm, Int.cast_natCast, Int.cast_natCast] at hvalue
  rw [zero, add, hlow, hnothing, Int.add_zero, exactValue_finite, hsigned, signed_eq hm,
    Int.cast_natCast, ← hvalue]
  generalize m * 2 ^ (e - minExponent).toNat = k at hvalue
  rcases Nat.eq_zero_or_pos k with rfl | hk
  · simp [ofSum, zero, exactValue_finite, signed]
  have hpos : 0 < m := by
    refine Nat.pos_of_ne_zero fun hzero => ?_
    rw [hzero, Nat.cast_zero, zero_mul] at hvalue
    exact absurd hvalue (mul_pos (Nat.cast_pos.mpr hk) (zpow_pos two_pos _)).ne'
  have hself : ofDyadic false k minExponent = finite false m e := by
    rw [ofDyadic_eq]
    exact ofRatio_self hcanonical hpos (ratio_pos _ _) ((ratio_eq _ _).trans hvalue)
  rw [ofSum, if_neg (Int.natCast_ne_zero.mpr hk.ne'), Int.natAbs_natCast,
    decide_eq_false (not_lt.mpr (Int.natCast_nonneg k)), hself, hvalue, exactValue_plain]

namespace Number

variable {a c t mark : Number}

theorem Tally.add_zero (ha : a.Tally) (h : a.add (.int 0) = .ok c) : c.exactValue = a.exactValue := by
  cases a with
  | int n =>
    obtain rfl := Except.ok.inj h
    exact congrArg (fun k : Int => ofRat k) (Int.add_zero n)
  | double x =>
    obtain rfl := Except.ok.inj h
    exact Double.exactValue_add_zero (ha.canonical x rfl) ha.toNonneg

end Number

/-! ## Shares -/

/-- **A double from zero up to one**, such as a draw. -/
structure Double.Share (x : Double) : Prop where
  /-- it is in the usual form -/
  canonical : x.Canonical
  /-- from zero -/
  low : (Number.double x).atLeast (.int 0) = true
  /-- up to one -/
  high : (Number.double x).less (.int 1) = true

namespace Double

/-- It is less than one by a unit of 53 bits or more. -/
theorem Share.exists_finite {x : Double} (h : x.Share) : ∃ negative m e,
    x = .finite negative m e ∧ (negative = true → m = 0) ∧
      (m * 2 ^ e : ℚ) ≤ 1 - 2 ^ (-53 : Int) := by
  have hnonneg := Number.nonneg_iff.1 h.low
  have hless := h.high
  rw [Number.less_iff hnonneg.number rfl] at hless
  obtain rfl | ⟨negative, m, e, rfl, hm⟩ := nonneg_cases hnonneg
  · exact absurd hless (not_lt.mpr le_top)
  refine ⟨negative, m, e, rfl, hm, ?_⟩
  have hone : (m * 2 ^ e : ℚ) < 1 := by
    have hvalue : ofRat (signed negative m * 2 ^ e) < ofRat (1 : Int) := hless
    rw [strictMono_ofRat.lt_iff_lt, signed_eq hm] at hvalue
    exact_mod_cast hvalue
  obtain ⟨hbits, -, -, hfull⟩ := h.canonical
  have hexponent : e ≤ -53 := by
    by_contra hlarge
    have hmany : (2 : ℚ) ^ 52 ≤ m := by
      exact_mod_cast hfull (lt_trans (by decide) (not_le.mp hlarge))
    have hunit : (2 : ℚ) ^ (-52 : Int) ≤ 2 ^ e := zpow_le_zpow_right₀ one_le_two (by omega)
    have hall : (2 : ℚ) ^ 52 * 2 ^ (-52 : Int) ≤ m * 2 ^ e :=
      mul_le_mul hmany hunit (by positivity) (Nat.cast_nonneg m)
    norm_num at hall
    linarith
  have hfew : (m : ℚ) + 1 ≤ 2 ^ 53 := by exact_mod_cast hbits
  calc (m * 2 ^ e : ℚ) ≤ m * 2 ^ (-53 : Int) := by
        gcongr
        exact one_le_two
    _ ≤ (2 ^ 53 - 1) * 2 ^ (-53 : Int) := by
        gcongr
        linarith
    _ = 1 - 2 ^ (-53 : Int) := by norm_num

theorem ratio_mul (m k : Nat) (e i : Int) :
    ((ratio (m * k) (e + i)).1 / (ratio (m * k) (e + i)).2 : ℚ) = m * 2 ^ e * (k * 2 ^ i) := by
  rw [ratio_eq, zpow_add₀ two_ne_zero]
  push_cast
  ring

/-- A product of doubles without a sign is the rounded ratio. -/
theorem exactValue_mul {s t : Bool} {m k : Nat} {e i : Int} (hm : s = true → m = 0)
    (hk : t = true → k = 0) : ((finite s m e).mul (finite t k i)).exactValue =
      (ofRatio false (ratio (m * k) (e + i)).1 (ratio (m * k) (e + i)).2).exactValue := by
  rw [mul, ofDyadic_eq]
  by_cases hzero : m * k = 0
  · rw [hzero, ratio_zero, exactValue_ofRatio_zero]
    simp [ofRatio, zero, exactValue_finite, signed]
  · obtain ⟨hm0, hk0⟩ := Nat.mul_ne_zero_iff.mp hzero
    have hs : s = false := Bool.eq_false_iff.mpr fun h => hm0 (hm h)
    have ht : t = false := Bool.eq_false_iff.mpr fun h => hk0 (hk h)
    rw [hs, ht]
    rfl

/-- **A share of a double** is no more than the double. -/
theorem share_le {x y : Double} (hx : x.Share) (hy : y.Canonical)
    (hnonneg : (Number.double y).Nonneg) : (x.mul y).exactValue ≤ y.exactValue := by
  obtain ⟨s, m, e, rfl, hm, hshare⟩ := hx.exists_finite
  obtain rfl | ⟨t, k, i, rfl, hk⟩ := nonneg_cases hnonneg
  · exact le_top
  have hless : ((ratio (m * k) (e + i)).1 / (ratio (m * k) (e + i)).2 : ℚ) ≤ k * 2 ^ i := by
    have hunit : (0 : ℚ) ≤ k * 2 ^ i := by positivity
    have hone : (m * 2 ^ e : ℚ) ≤ 1 := hshare.trans (by norm_num)
    rw [ratio_mul]
    exact mul_le_of_le_one_left hunit hone
  rw [exactValue_mul hm hk, exactValue_finite, signed_eq hk, Int.cast_natCast]
  exact ofRatio_le_of_le (ratio_pos _ _) hy hless

/-- **A share of an integer** is no more than the integer: where the integer is rounded up to a double,
no double lies between the two, and the share is less than the double. -/
theorem share_ofInt_le {x : Double} (hx : x.Share) {k j : Nat} {i : Int}
    (hdouble : ofRatio false k 1 = .finite false j i) :
    (x.mul (.finite false j i)).exactValue ≤ ofRat k := by
  have hvalue := (value_ofRatio hdouble).2
  have hcanonical : (finite false j i).Canonical := hdouble ▸ canonical_ofRatio false k one_pos
  have hbelow : (x.mul (finite false j i)).exactValue ≤ ofRat (j * 2 ^ i) :=
    share_le hx hcanonical (nonneg_finite.2 nofun)
  rcases Nat.eq_zero_or_pos k with rfl | hk
  · rw [hvalue, nearest_zero] at hbelow
    rwa [Nat.cast_zero]
  obtain ⟨s, m, e, rfl, hm, hshare⟩ := hx.exists_finite
  rw [exactValue_mul (t := false) hm nofun] at hbelow ⊢
  have hratio := ratio_mul m j e i
  have hden := ratio_pos (m * j) (e + i)
  generalize (ratio (m * j) (e + i)).1 = num, (ratio (m * j) (e + i)).2 = den at *
  have hfinite : num < overflow * den := by
    by_contra hinf
    rw [ofRatio_infinity false hden (not_lt.mp hinf)] at hbelow
    exact absurd hbelow (not_le.mpr (ofRat_lt_top _))
  rw [exactValue_ofRatio hden hfinite]
  refine strictMono_ofRat.monotone (not_lt.mp fun hmore => ?_)
  obtain ⟨a, b, hrounded⟩ := ofRatio_finite false hden hfinite
  have hshared := (value_ofRatio hrounded).2
  have habove : ofRat (nearest k 1) ≤ ofRat (nearest num den) := by
    have hle : (k / (1 : Nat) : ℚ) ≤ a * 2 ^ b := by
      rw [hshared, Nat.cast_one, div_one]
      exact hmore.le
    have hcanonical : (finite false a b).Canonical :=
      hrounded ▸ canonical_ofRatio false num hden
    have hround := ofRatio_le_of_le one_pos hcanonical hle
    rwa [hdouble, exactValue_plain, hvalue, hshared] at hround
  have hone : (1 : ℚ) ≤ nearest k 1 := one_le_nearest hk
  have hless : nearest num den < nearest k 1 := by
    refine nearest_lt hden hone ?_
    rw [hratio, hvalue]
    exact mul_le_mul_of_nonneg_right hshare (zero_le_one.trans hone)
  exact absurd (strictMono_ofRat.le_iff_le.mp habove) (not_le.mpr hless)

end Double

/-- **A share of a tally is no more than the tally.** -/
theorem Number.share_le {x : Double} {t mark : Number} (hx : x.Share) (ht : t.Tally)
    (hmark : (Number.double x).mul t = .ok mark) : mark.exactValue ≤ t.exactValue := by
  obtain ⟨m, n, hdouble, -⟩ | ⟨x', y, hx', hy, rfl⟩ := exists_of_combine hmark
  · cases hdouble
  obtain rfl := Except.ok.inj hx'
  cases t with
  | double y' =>
    obtain rfl := Except.ok.inj hy
    exact Double.share_le hx (ht.canonical _ rfl) ht.toNonneg
  | int n =>
    obtain ⟨k, rfl⟩ := ht.toNonneg.exists_natCast
    obtain ⟨m, e, rfl, hdouble⟩ := exists_of_doubleOfInt hy
    exact Double.share_ofInt_le hx hdouble

/-- **A share of one or more** is no less than the draw. -/
theorem Number.le_share {x : Double} {t mark : Number} (hx : x.Share)
    (hpos : ofRat 0 < x.exactValue) (ht : t.Nonneg) (hone : ofRat 1 ≤ t.exactValue)
    (hmark : (Number.double x).mul t = .ok mark) : x.exactValue ≤ mark.exactValue := by
  obtain ⟨m, n, hdouble, -⟩ | ⟨x', y, hx', hy, rfl⟩ := exists_of_combine hmark
  · cases hdouble
  obtain rfl := Except.ok.inj hx'
  have hy1 : ofRat 1 ≤ y.exactValue := by
    cases t with
    | double y' =>
      obtain rfl := Except.ok.inj hy
      exact hone
    | int n =>
      obtain ⟨k, rfl⟩ := ht.exists_natCast
      obtain ⟨m, e, rfl, hdouble⟩ := exists_of_doubleOfInt hy
      have hk : 1 ≤ k := by
        have hcast : (1 : ℚ) ≤ (k : Int) := strictMono_ofRat.le_iff_le.mp hone
        exact_mod_cast hcast
      rw [Double.exactValue_plain, (Double.value_ofRatio hdouble).2, strictMono_ofRat.le_iff_le]
      exact Double.one_le_nearest hk
  obtain ⟨s, m, e, rfl, hm, -⟩ := hx.exists_finite
  have hm0 : m ≠ 0 := by
    rintro rfl
    simp [Double.exactValue_finite, Double.signed] at hpos
  obtain rfl : s = false := Bool.eq_false_iff.mpr fun h => hm0 (hm h)
  obtain rfl | ⟨r, k, i, rfl, hk⟩ := Double.nonneg_cases (ht.toDouble hy)
  · change _ ≤ (Double.mul _ _).exactValue
    rw [Double.mul, if_neg hm0]
    exact le_top
  · change _ ≤ (Double.mul _ _).exactValue
    rw [Double.exactValue_mul hm hk, Double.exactValue_plain,
      ← Double.exactValue_ofRatio_ratio hx.canonical]
    refine Double.ofRatio_le (Double.ratio_pos _ _) (Double.ratio_pos _ _) ?_
    rw [Double.ratio_eq, Double.ratio_mul]
    rw [Double.exactValue_finite, Double.signed_eq hk, Int.cast_natCast,
      strictMono_ofRat.le_iff_le] at hy1
    exact le_mul_of_one_le_right (by positivity) hy1

end ChatFlow
