import ChatFlow.Proofs.Clock.Timestamp
import Mathlib.Order.Monotone.Basic

/-!
# The order of days

Days are numbered in the order of the calendar, each by its own number, and a later moment is not on
an earlier day.

* `Moment.ordinal_injective` — a day is known by its number;
* `Moment.sameDate_iff` — **moments of one day are those of one number**;
* `Moment.sameDate_of_between` — what lies between two moments of one day is of that day.
-/

namespace ChatFlow.Moment

/-! ## Years and months -/

/-- Days before a year. -/
def daysBeforeYear (year : Nat) : Nat :=
  (year - 1) * 365 + (year - 1) / 4 - (year - 1) / 100 + (year - 1) / 400

theorem isLeap_iff (year : Nat) :
    isLeap year = true ↔ 4 ∣ year ∧ (¬ 100 ∣ year ∨ 400 ∣ year) := by
  simp [isLeap, Nat.dvd_iff_mod_eq_zero]

theorem daysBefore_succ (year : Nat) {month : Nat} (h : 1 ≤ month) :
    daysBefore year (month + 1) = daysBefore year month + daysIn year month := by
  obtain ⟨k, rfl⟩ := Nat.exists_eq_add_of_le' h
  rfl

theorem daysBefore_mono (year : Nat) : Monotone (daysBefore year) := by
  refine monotone_nat_of_le_succ fun month => ?_
  cases month with
  | zero => rfl
  | succ month =>
    rw [daysBefore_succ year (Nat.le_add_left 1 month)]
    exact Nat.le_add_right _ _

/-- Twelve months make a year. -/
theorem daysBefore_year (year : Nat) :
    daysBefore year 13 = if isLeap year then 366 else 365 := by
  have hmonths : daysBefore year 13 = 31 + daysIn year 2 + 306 := rfl
  rw [hmonths, daysIn, if_pos rfl]
  split <;> rfl

theorem daysBeforeYear_succ {year : Nat} (h : 1 ≤ year) :
    daysBeforeYear (year + 1) = daysBeforeYear year + daysBefore year 13 := by
  obtain ⟨k, rfl⟩ := Nat.exists_eq_add_of_le' h
  have hle : k / 100 ≤ k / 4 := Nat.div_le_div_left (by decide) (by decide)
  have hfour : 100 ∣ k + 1 → 4 ∣ k + 1 := Dvd.dvd.trans (by decide)
  have hhundred : 400 ∣ k + 1 → 100 ∣ k + 1 := Dvd.dvd.trans (by decide)
  rw [daysBefore_year]
  simp only [daysBeforeYear, Nat.add_sub_cancel, Nat.succ_div, isLeap_iff]
  -- the leap days up to a year are told apart by whether this year adds one
  generalize k / 4 = fours at *
  generalize k / 100 = hundreds at *
  generalize k / 400 = cycles at *
  split_ifs <;> grind

theorem daysBeforeYear_mono : Monotone daysBeforeYear := by
  refine monotone_nat_of_le_succ fun year => ?_
  cases year with
  | zero => rfl
  | succ year =>
    rw [daysBeforeYear_succ (Nat.le_add_left 1 year)]
    exact Nat.le_add_right _ _

/-! ## Days -/

variable {a b c : Moment}

theorem ordinal_eq (m : Moment) :
    m.ordinal = daysBeforeYear m.year + daysBefore m.year m.month + m.day := rfl

/-- A day lies within its month. -/
theorem day_bounds (h : a.isValid = true) :
    daysBefore a.year a.month < daysBefore a.year a.month + a.day ∧
      daysBefore a.year a.month + a.day ≤ daysBefore a.year (a.month + 1) := by
  obtain ⟨-, hmonth, hday, -⟩ := (isValid_iff a).mp h
  rw [daysBefore_succ a.year hmonth.1]
  omega

/-- Days of a later year have larger numbers. -/
theorem ordinal_lt_of_year (ha : a.isValid = true) (hb : b.isValid = true) (h : a.year < b.year) :
    a.ordinal < b.ordinal := by
  obtain ⟨hyear, hmonth, -⟩ := (isValid_iff a).mp ha
  have hwithin : daysBefore a.year (a.month + 1) ≤ daysBefore a.year 13 :=
    daysBefore_mono a.year (by omega)
  have hnext := daysBeforeYear_succ hyear.1
  have hlater : daysBeforeYear (a.year + 1) ≤ daysBeforeYear b.year := daysBeforeYear_mono h
  have := day_bounds ha
  have := day_bounds hb
  rw [ordinal_eq, ordinal_eq]
  omega

/-- Within a year, days of a later month have larger numbers. -/
theorem ordinal_lt_of_month (ha : a.isValid = true) (hb : b.isValid = true)
    (hyear : a.year = b.year) (h : a.month < b.month) : a.ordinal < b.ordinal := by
  have hlater : daysBefore a.year (a.month + 1) ≤ daysBefore a.year b.month :=
    daysBefore_mono a.year h
  have := day_bounds ha
  have := day_bounds hb
  rw [ordinal_eq, ordinal_eq, ← hyear] at *
  omega

/-- **A day is known by its number.** -/
theorem ordinal_injective (ha : a.isValid = true) (hb : b.isValid = true)
    (h : a.ordinal = b.ordinal) : a.year = b.year ∧ a.month = b.month ∧ a.day = b.day := by
  have hyear : a.year = b.year := by
    rcases Nat.lt_trichotomy a.year b.year with hlt | heq | hgt
    · exact absurd h (ordinal_lt_of_year ha hb hlt).ne
    · exact heq
    · exact absurd h (ordinal_lt_of_year hb ha hgt).ne'
  have hmonth : a.month = b.month := by
    rcases Nat.lt_trichotomy a.month b.month with hlt | heq | hgt
    · exact absurd h (ordinal_lt_of_month ha hb hyear hlt).ne
    · exact heq
    · exact absurd h (ordinal_lt_of_month hb ha hyear.symm hgt).ne'
  rw [ordinal_eq, ordinal_eq, hyear, hmonth] at h
  exact ⟨hyear, hmonth, by omega⟩

/-- **Moments of one day are those of one number.** -/
theorem sameDate_iff (ha : a.isValid = true) (hb : b.isValid = true) :
    a.sameDate b = true ↔ a.ordinal = b.ordinal := by
  simp only [sameDate, Bool.and_eq_true, decide_eq_true_eq, and_assoc]
  constructor
  · rintro ⟨hyear, hmonth, hday⟩
    rw [ordinal_eq, ordinal_eq, hyear, hmonth, hday]
  · exact ordinal_injective ha hb

/-! ## Moments -/

/-- A later moment is not on an earlier day. -/
theorem ordinal_le_of_epochMicros (hb : b.isValid = true) (h : a.epochMicros ≤ b.epochMicros) :
    a.ordinal ≤ b.ordinal := by
  obtain ⟨-, -, -, hhour, hminute, hsecond, hmicro⟩ := (isValid_iff b).mp hb
  unfold epochMicros epochSeconds at h
  omega

/-- **What lies between two moments of one day is of that day.** -/
theorem sameDate_of_between (ha : a.isValid = true) (hb : b.isValid = true) (hc : c.isValid = true)
    (hab : a.epochMicros ≤ b.epochMicros) (hbc : b.epochMicros ≤ c.epochMicros)
    (h : a.sameDate c = true) : b.sameDate c = true := by
  rw [sameDate_iff ha hc] at h
  rw [sameDate_iff hb hc]
  have := ordinal_le_of_epochMicros hb hab
  have := ordinal_le_of_epochMicros hc hbc
  omega

end ChatFlow.Moment
