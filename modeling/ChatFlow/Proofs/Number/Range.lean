import ChatFlow.Proofs.Number.Rounding

/-!
# The range of doubles

Where rounding ends in an infinity, and what becomes of integers there.

* `Double.overflow` — the least natural without a finite double;
* `ofRatio_finite`, `ofRatio_infinity` — **a ratio below it has a finite double**, from there on it has
  none;
* `ComesTo` — what a result comes to: it fits, or it is a fault of numbers;
* `Number.Vast` — an integer out of range, `Number.Endless` — one that is too long to be written;
  `toDouble_comes`, `combine_comes`, `div_comes` and so on say of each operation for which numbers it
  fails, **and that it fails for no others**.
-/

namespace ChatFlow

namespace Double

/-- **The least natural without a finite double**: half way between the largest of them and the power
of two behind it. -/
def overflow : Nat := (2 ^ 54 - 1) * Nat.pow 2 (maxExponent - 1).toNat

/-- That is half a unit of the last bit more than the largest double. -/
theorem overflow_eq : (overflow : ℚ) = (2 ^ 53 - 1 / 2) * 2 ^ maxExponent := by
  have hshift (k : Nat) :
      (((2 ^ 54 - 1) * Nat.pow 2 k : Nat) : ℚ) = (2 ^ 53 - 1 / 2) * 2 ^ ((k : Int) + 1) := by
    have hpow : ((Nat.pow 2 k : Nat) : ℚ) = 2 ^ k := Nat.cast_pow 2 k
    rw [Nat.cast_mul, hpow, zpow_add_one₀ two_ne_zero, zpow_natCast]
    norm_num
    ring
  have hlast : ((maxExponent - 1).toNat : Int) + 1 = maxExponent := by decide
  rw [overflow, hshift, hlast]

-- to compare it with another number must not write out its digits
attribute [irreducible] overflow

variable {num den : Nat}

/-- The mantissa of a ratio is a half off it at most, in units of the last bit, and that far below it
only where it is even. -/
theorem wholes_near (num : Nat) (hden : 0 < den) :
    (wholes num den - 1 / 2 : ℚ) * 2 ^ grid num den ≤ num / den ∧
      (num / den : ℚ) ≤ (wholes num den + 1 / 2) * 2 ^ grid num den ∧
      ((num / den : ℚ) = (wholes num den + 1 / 2) * 2 ^ grid num den → wholes num den % 2 = 0) := by
  have hscale : (0 : ℚ) < 2 ^ grid num den := zpow_pos two_pos _
  obtain ⟨⟨hlow, hhigh⟩, heven⟩ := roundDiv_near (scaled num den (grid num den)).1
    (scaled_pos num hden (grid num den))
  rw [scaled_eq] at hlow hhigh heven
  exact ⟨(le_div_iff₀ hscale).mp hlow, (div_le_iff₀ hscale).mp hhigh,
    fun htie => heven (.inl ((div_eq_iff hscale.ne').mpr htie))⟩

/-- Settling ends in an infinity where the mantissa stands at too large an exponent, or is carried to
one. -/
theorem settle_eq (negative : Bool) (m : Nat) (e : Int) :
    (∃ m' e', settle negative m e = .finite negative m' e' ∧ e ≤ maxExponent ∧
      (m = 2 ^ 53 → e < maxExponent)) ∨
    settle negative m e = .infinity negative ∧
      (maxExponent < e ∨ m = 2 ^ 53 ∧ e = maxExponent) := by
  rw [settle]
  by_cases hcarry : m = 2 ^ 53
  · rw [if_pos (show m = Nat.pow 2 53 from hcarry)]
    dsimp only
    split
    · exact .inr ⟨rfl, by omega⟩
    · exact .inl ⟨_, _, rfl, by omega, fun _ => by omega⟩
  · rw [if_neg (show m ≠ Nat.pow 2 53 from hcarry)]
    dsimp only
    split
    · exact .inr ⟨rfl, by omega⟩
    · exact .inl ⟨_, _, rfl, by omega, fun h => absurd h hcarry⟩

/-- **A ratio below it has a finite double.** -/
theorem ofRatio_finite (negative : Bool) (hden : 0 < den) (h : num < overflow * den) :
    ∃ m e, ofRatio negative num den = .finite negative m e := by
  have hbelow : (num / den : ℚ) < (2 ^ 53 - 1 / 2) * 2 ^ maxExponent := by
    rw [← overflow_eq, div_lt_iff₀ (by exact_mod_cast hden)]
    exact_mod_cast h
  rcases Nat.eq_zero_or_pos num with rfl | hnum
  · exact ⟨0, minExponent, rfl⟩
  rw [ofRatio_eq_settle negative hnum.ne']
  rcases settle_eq negative (wholes num den) (grid num den) with ⟨m, e, hfinite, -⟩ | ⟨-, hout⟩
  · exact ⟨m, e, hfinite⟩
  · exfalso
    rcases hout with hbeyond | ⟨hcarry, hlast⟩
    · have hfull := grid_le hnum hden (lt_trans (by decide) hbeyond)
      have hlarge : (2 : ℚ) ^ (maxExponent + 53) ≤ 2 ^ (grid num den + 52) :=
        zpow_le_zpow_right₀ one_le_two (by omega)
      rw [zpow_add₀ two_ne_zero] at hlarge
      have hunit : (0 : ℚ) < 2 ^ maxExponent := zpow_pos two_pos _
      norm_num at hlarge
      linarith
    · have hnear := (wholes_near num hden).1
      rw [hcarry, hlast] at hnear
      push_cast at hnear
      exact absurd hbelow (not_lt.mpr hnear)

/-- A ratio from there on has more bits before the point than the largest double but one. -/
theorem maxExponent_le_grid (hden : 0 < den)
    (h : (2 ^ 53 - 1 / 2) * 2 ^ maxExponent ≤ (num / den : ℚ)) : maxExponent ≤ grid num den := by
  have hunit : (0 : ℚ) < 2 ^ maxExponent := zpow_pos two_pos _
  by_contra hless
  have hfew : (2 : ℚ) ^ (grid num den + 53) ≤ 2 ^ (maxExponent + 52) :=
    zpow_le_zpow_right₀ one_le_two (by omega)
  rw [zpow_add₀ two_ne_zero maxExponent] at hfew
  norm_num at hfew
  linarith [lt_grid num hden]

/-- Its mantissa is carried: all ones are odd, so it is not half way between them and the next. -/
theorem wholes_eq_full (hden : 0 < den) (hlast : grid num den = maxExponent)
    (h : (2 ^ 53 - 1 / 2) * 2 ^ maxExponent ≤ (num / den : ℚ)) : wholes num den = 2 ^ 53 := by
  have hunit : (0 : ℚ) < 2 ^ maxExponent := zpow_pos two_pos _
  obtain ⟨-, hhigh, heven⟩ := wholes_near num hden
  rw [hlast] at hhigh heven
  have hmost : wholes num den ≤ 2 ^ 53 := wholes_le hden
  have hleast : 2 ^ 53 ≤ wholes num den + 1 := by
    have hscaled := (mul_le_mul_iff_left₀ hunit).mp (h.trans hhigh)
    have hnext : (2 ^ 53 : ℚ) ≤ wholes num den + 1 := by linarith
    exact_mod_cast hnext
  have hodd : wholes num den ≠ 2 ^ 53 - 1 := by
    intro hones
    have htie : (num / den : ℚ) = (wholes num den + 1 / 2) * 2 ^ maxExponent := by
      refine le_antisymm hhigh (le_trans (le_of_eq ?_) h)
      rw [hones]
      norm_num
    have hremainder := heven htie
    rw [hones] at hremainder
    exact absurd hremainder (by decide)
  omega

/-- **A ratio from there on has none.** -/
theorem ofRatio_infinity (negative : Bool) (hden : 0 < den) (h : overflow * den ≤ num) :
    ofRatio negative num den = .infinity negative := by
  have habove : (2 ^ 53 - 1 / 2) * 2 ^ maxExponent ≤ (num / den : ℚ) := by
    rw [← overflow_eq, le_div_iff₀ (by exact_mod_cast hden)]
    exact_mod_cast h
  have hnum : 0 < num := by
    have hunit : (0 : ℚ) < 2 ^ maxExponent := zpow_pos two_pos _
    refine Nat.pos_of_ne_zero fun hzero => ?_
    rw [hzero, Nat.cast_zero, zero_div] at habove
    exact absurd habove (not_le.mpr (mul_pos (by norm_num) hunit))
  have hgrid := maxExponent_le_grid hden habove
  rw [ofRatio_eq_settle negative hnum.ne']
  rcases settle_eq negative (wholes num den) (grid num den) with ⟨m, e, -, hin, hcarry⟩ | ⟨hinf, -⟩
  · have hlast : grid num den = maxExponent := le_antisymm hin hgrid
    exact absurd (hcarry (wholes_eq_full hden hlast habove)) (by omega)
  · exact hinf

end Double

/-! ## What results come to -/

/-- **A fault of numbers**: one is out of range, or too long to be written. -/
def Fault.OfRange (f : Fault) : Prop := f = .doubleRange ∨ f = .quotientRange ∨ f = .digitLimit

/-- **What a result comes to**: it is there and fits, or it is a fault of numbers, and that exactly
if it fails on the given condition. -/
inductive ComesTo {α : Type} : Except Fault α → (fits : α → Prop) → (fails : Prop) → Prop where
  /-- there is a result -/
  | ok {a : α} {fits : α → Prop} {fails : Prop} (h : fits a) (hfails : ¬ fails) :
    ComesTo (.ok a) fits fails
  /-- there is none -/
  | fault {f : Fault} {fits : α → Prop} {fails : Prop} (h : f.OfRange) (hfails : fails) :
    ComesTo (.error f) fits fails

namespace ComesTo

variable {α β : Type} {r : Except Fault α} {fits : α → Prop} {fails fails' : Prop}

theorem congr (h : ComesTo r fits fails) (hiff : fails ↔ fails') : ComesTo r fits fails' :=
  propext hiff ▸ h

/-- One result after another fails in the one or in the other. -/
theorem bind {next : α → Except Fault β} {fits' : β → Prop} {fails' : α → Prop}
    (h : ComesTo r fits fails)
    (hnext : ∀ a, r = .ok a → fits a → ComesTo (next a) fits' (fails' a)) :
    ComesTo (r >>= next) fits' (fails ∨ ∃ a, r = .ok a ∧ fails' a) := by
  cases h with
  | fault hf hfails => exact .fault hf (.inl hfails)
  | @ok a _ _ ha hfails =>
    refine (hnext a rfl ha).congr ⟨fun hafter => .inr ⟨a, rfl, hafter⟩, ?_⟩
    rintro (hbefore | ⟨a', ha', hafter⟩)
    · exact absurd hbefore hfails
    · cases ha'
      exact hafter

/-- Where the second does not depend on the value of the first, neither does that. -/
theorem andThen {next : α → Except Fault β} {fits' : β → Prop} (h : ComesTo r fits fails)
    (hnext : ∀ a, fits a → ComesTo (next a) fits' fails') :
    ComesTo (r >>= next) fits' (fails ∨ fails') := by
  cases h with
  | fault hf hfails => exact .fault hf (.inl hfails)
  | @ok a _ _ ha hfails => exact (hnext a ha).congr (or_iff_right hfails).symm

theorem map {f : α → β} {fits' : β → Prop} (h : ComesTo r fits fails)
    (hf : ∀ a, fits a → fits' (f a)) : ComesTo (r.map f) fits' fails := by
  cases h with
  | fault hf hfails => exact .fault hf hfails
  | ok ha hfails => exact .ok (hf _ ha) hfails

theorem thenReturn {f : α → β} {fits' : β → Prop} (h : ComesTo r fits fails)
    (hf : ∀ a, fits a → fits' (f a)) : ComesTo (do return f (← r)) fits' fails := by
  rw [bind_pure_comp]
  exact h.map hf

theorem of_ok {a : α} (h : ComesTo (.ok a) fits fails) : fits a ∧ ¬ fails := by
  cases h with
  | ok ha hfails => exact ⟨ha, hfails⟩

theorem of_error {f : Fault} (h : ComesTo (.error f) fits fails) : f.OfRange ∧ fails := by
  cases h with
  | fault hf hfails => exact ⟨hf, hfails⟩

/-- **A result is there** unless it fails. -/
theorem exists_ok_iff (h : ComesTo r fits fails) : (∃ a, r = .ok a ∧ fits a) ↔ ¬ fails := by
  cases h with
  | fault hf hfails => exact iff_of_false nofun (not_not.mpr hfails)
  | ok ha hfails => exact iff_of_true ⟨_, rfl, ha⟩ hfails

end ComesTo

/-! ## Numbers out of range -/

namespace Number

/-- **An integer out of the range of doubles.** -/
def Vast : Number → Prop
  | .int n => Double.overflow ≤ n.natAbs
  | .double _ => False

/-- **An integer that is too long to be written.** -/
def Endless : Number → Prop
  | .int n => Nat.pow 10 digitLimit ≤ n.natAbs
  | .double _ => False

/-- Integers of 53 bits are in range. -/
theorem not_vast_of_lt {n : Int} (h : n.natAbs < 2 ^ 53) : ¬ (Number.int n).Vast := by
  have hbits : 2 ^ 53 ≤ Double.overflow := by decide +kernel
  exact fun hvast => absurd (hbits.trans hvast) (not_le.mpr h)

theorem Endless.vast {a : Number} (h : a.Endless) : a.Vast := by
  cases a with
  | int n =>
    have hlimit : Double.overflow ≤ Nat.pow 10 digitLimit := by decide +kernel
    exact hlimit.trans h
  | double x => exact h

/-- **Whether an operation in doubles overreaches**: beside a double, an integer is made one. -/
def Clash : Number → Number → Prop
  | .int _, .int _ => False
  | a, b => a.Vast ∨ b.Vast

/-- **Whether a quotient overreaches**: of two integers it is rounded as it is. -/
def OverQuotient : Number → Number → Prop
  | .int m, .int n => Double.overflow * n.natAbs ≤ m.natAbs
  | a, b => a.Vast ∨ b.Vast

variable (a b : Number)

theorem doubleOfInt_comes (n : Int) : ComesTo (doubleOfInt n) (fun _ => True) (Number.int n).Vast := by
  rw [doubleOfInt, Double.ofInt]
  by_cases h : Double.overflow ≤ n.natAbs
  · rw [Double.ofRatio_infinity _ one_pos (by rwa [mul_one])]
    exact .fault (.inl rfl) h
  · obtain ⟨m, e, hfinite⟩ := Double.ofRatio_finite (n < 0) one_pos
      (by rwa [mul_one, ← not_le] : n.natAbs < Double.overflow * 1)
    rw [hfinite]
    exact .ok trivial h

/-- **An integer out of range has no double.** -/
theorem toDouble_comes : ComesTo a.toDouble (fun _ => True) a.Vast := by
  cases a with
  | int n => exact doubleOfInt_comes n
  | double x => exact .ok trivial id

theorem isInfinite_comes : ComesTo a.isInfinite (fun _ => True) a.Vast := by
  cases a with
  | int n => exact (doubleOfInt_comes n).map fun _ _ => trivial
  | double x => exact .ok trivial id

/-- **Truth is asked of a double**, except of zero. -/
theorem truthy_comes : ComesTo a.truthy (fun _ => True) a.Vast := by
  cases a with
  | int n =>
    rw [truthy]
    split
    · next hzero => exact .ok trivial (not_vast_of_lt (by simp [hzero]))
    · exact (doubleOfInt_comes n).map fun _ _ => trivial
  | double x => exact .ok trivial id

/-- **An integer has a text** unless it is too long. -/
theorem intText?_comes (n : Int) : ComesTo (intText? n) (fun _ => True) (Number.int n).Endless := by
  rw [intText?, Endless]
  -- the limit stays a number without digits
  generalize Nat.pow 10 digitLimit = limit
  split
  · next hshort => exact .ok trivial (not_le.mpr hshort)
  · next hlong => exact .fault (.inr (.inr rfl)) (not_lt.mp hlong)

/-- Doubles of both numbers are there unless one is out of range. -/
theorem doubles_comes {α : Type} (f : Double → Double → α) :
    ComesTo (do
      let x ← a.toDouble
      let y ← b.toDouble
      return f x y) (fun _ => True) (a.Vast ∨ b.Vast) :=
  (toDouble_comes a).andThen fun _ _ => (toDouble_comes b).thenReturn fun _ _ => trivial

/-- **Sums, differences and products** of integers are exact. -/
theorem combine_comes (onInts : Int → Int → Int) (onDoubles : Double → Double → Double) :
    ComesTo (combine onInts onDoubles a b) (fun _ => True) (a.Clash b) := by
  cases a with
  | int m =>
    cases b with
    | int n => exact .ok trivial id
    | double y => exact doubles_comes _ _ _
  | double x => exact doubles_comes _ _ _

/-- **A quotient** of integers has to be in range as a ratio. -/
theorem div_comes (hb : b.isZero = false) :
    ComesTo (a.div b) (fun _ => True) (a.OverQuotient b) := by
  cases a with
  | int m =>
    cases b with
    | int n =>
      have hn : 0 < n.natAbs := Int.natAbs_pos.mpr (by simpa [isZero] using hb)
      simp only [div]
      by_cases h : Double.overflow * n.natAbs ≤ m.natAbs
      · rw [Double.ofRatio_infinity _ hn h]
        exact .fault (.inr (.inl rfl)) h
      · obtain ⟨k, e, hfinite⟩ := Double.ofRatio_finite (decide (m < 0) != decide (n < 0)) hn
          (not_le.mp h)
        rw [hfinite]
        exact .ok trivial h
    | double y => exact doubles_comes _ _ _
  | double x => exact doubles_comes _ _ _

/-- **A remainder** is taken in doubles. -/
theorem rem_comes : ComesTo (a.rem b) (fun _ => True) (a.Vast ∨ b.Vast) := doubles_comes a b _

/-! ### Only integers out of range overreach -/

theorem Clash.vast {a b : Number} (h : a.Clash b) : a.Vast ∨ b.Vast := by
  cases a with
  | int m =>
    cases b with
    | int n => exact h.elim
    | double y => exact h
  | double x => exact h

/-- A quotient of integers is not larger than the dividend. -/
theorem OverQuotient.vast {a b : Number} (hb : b.isZero = false) (h : a.OverQuotient b) :
    a.Vast ∨ b.Vast := by
  cases a with
  | int m =>
    cases b with
    | int n =>
      have hn : 0 < n.natAbs := Int.natAbs_pos.mpr (by simpa [isZero] using hb)
      exact .inl ((Nat.le_mul_of_pos_right _ hn).trans h)
    | double y => exact h
  | double x => exact h

end Number

end ChatFlow
