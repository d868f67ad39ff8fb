import ChatFlow.Clock.Moment
import ChatFlow.Number.Basic
import ChatFlow.Proofs.Number.Rounding

/-!
# Timestamps

The moments of the calendar are few enough for exact arithmetic:

* `Moment.ordinal_lt` — days are numbered with seven digits;
* `Moment.timestamp_toInteger` — **a moment that a zone places has a timestamp**, and the timestamp a
  whole part.
-/

namespace ChatFlow.Moment

/-! ## Bounds -/

theorem daysIn_le (year month : Nat) : daysIn year month ≤ 31 := by
  unfold daysIn
  split
  · split <;> omega
  · split <;> omega

theorem daysBefore_le (year month : Nat) : daysBefore year month ≤ 31 * month := by
  fun_induction daysBefore year month with
  | case1 => omega
  | case2 => omega
  | case3 month _ ih =>
    have := daysIn_le year month
    omega

/-- **What makes a moment valid.** -/
theorem isValid_iff (m : Moment) : m.isValid = true ↔
    (1 ≤ m.year ∧ m.year ≤ 9999) ∧ (1 ≤ m.month ∧ m.month ≤ 12) ∧
      (1 ≤ m.day ∧ m.day ≤ daysIn m.year m.month) ∧ m.hour < 24 ∧ m.minute < 60 ∧
        m.second < 60 ∧ m.micro < 1000000 := by
  simp only [isValid, Bool.and_eq_true, decide_eq_true_eq]
  constructor
  · rintro ⟨⟨⟨⟨⟨⟨⟨⟨⟨h1, h2⟩, h3⟩, h4⟩, h5⟩, h6⟩, h7⟩, h8⟩, h9⟩, h10⟩
    exact ⟨⟨h1, h2⟩, ⟨h3, h4⟩, ⟨h5, h6⟩, h7, h8, h9, h10⟩
  · rintro ⟨⟨h1, h2⟩, ⟨h3, h4⟩, ⟨h5, h6⟩, h7, h8, h9, h10⟩
    exact ⟨⟨⟨⟨⟨⟨⟨⟨⟨h1, h2⟩, h3⟩, h4⟩, h5⟩, h6⟩, h7⟩, h8⟩, h9⟩, h10⟩

variable {m : Moment}

theorem ordinal_lt (h : m.isValid = true) : m.ordinal < 4000000 := by
  obtain ⟨hyear, hmonth, hday, -⟩ := (isValid_iff m).mp h
  have hbefore := daysBefore_le m.year m.month
  have hdays := daysIn_le m.year m.month
  unfold ordinal ordinalOf
  simp only
  omega

theorem natAbs_epochSeconds_le (h : m.isValid = true) : m.epochSeconds.natAbs ≤ 2 ^ 50 := by
  have hordinal := ordinal_lt h
  obtain ⟨-, -, -, hhour, hminute, hsecond, -⟩ := (isValid_iff m).mp h
  unfold epochSeconds
  omega

/-- Wherever a zone places a moment, the seconds are few. -/
theorem natAbs_le_of_seconds? {zone : Zone} {n : Int} (h : m.isValid = true)
    (hn : zone.seconds? m = some n) : n.natAbs ≤ 2 ^ 50 := by
  have hnear := zone.near hn
  have hordinal := ordinal_lt h
  obtain ⟨-, -, -, hhour, hminute, hsecond, -⟩ := (isValid_iff m).mp h
  unfold epochSeconds at hnear
  omega

/-! ## Seconds since 1970 -/

theorem timestamp_of_seconds? {zone : Zone} {n : Int} (hn : zone.seconds? m = some n) :
    m.timestamp zone = .ok ((Double.ofInt n).add (Double.ofRatio false m.micro 1000000)) := by
  simp only [timestamp, hn]

/-- **A moment that a zone places has a timestamp** with a whole part. -/
theorem timestamp_toInteger {zone : Zone} (h : m.isValid = true)
    (hplaced : (zone.seconds? m).isSome) :
    ∃ x n, m.timestamp zone = .ok x ∧ (Number.double x).toInteger = .ok n := by
  obtain ⟨n, hn⟩ := Option.isSome_iff_exists.mp hplaced
  have hfew := natAbs_le_of_seconds? h hn
  have hmicro : m.micro ≤ 1 * 1000000 := by
    have := ((isValid_iff m).mp h).2.2.2.2.2.2
    omega
  have hwhole : (n.natAbs : ℚ) ≤ 2 ^ 50 := by
    exact_mod_cast hfew
  have hpart : (m.micro : ℚ) / (1000000 : Nat) ≤ 1 := by
    rw [div_le_one (by norm_num)]
    exact_mod_cast (one_mul 1000000 ▸ hmicro)
  obtain ⟨m₁, e₁, hfirst, hvalue₁⟩ := Double.ofRatio_eq (decide (n < 0)) n.natAbs one_pos
    (by rw [Nat.cast_one, div_one]; exact Double.lt_range (lt_of_le_of_lt hwhole (by norm_num)))
  obtain ⟨m₂, e₂, hsecond, hvalue₂⟩ := Double.ofRatio_eq false m.micro
    (show 0 < 1000000 by norm_num) (Double.lt_range (lt_of_le_of_lt hpart (by norm_num)))
  have hsmall : (m₁ * 2 ^ e₁ + m₂ * 2 ^ e₂ : ℚ) < 2 ^ (1023 : Int) := by
    have hle₁ : Double.nearest n.natAbs 1 ≤ (2 ^ 50 : Nat) :=
      Double.nearest_le one_pos (by norm_num) (by simpa using hfew)
    have hle₂ : Double.nearest m.micro 1000000 ≤ (1 : Nat) :=
      Double.nearest_le (by norm_num) (by norm_num) hmicro
    rw [hvalue₁, hvalue₂]
    exact Double.lt_range (lt_of_le_of_lt (add_le_add hle₁ hle₂) (by norm_num))
  obtain ⟨s, k, e, hsum⟩ := Double.add_finite (decide (n < 0)) false hsmall
  refine ⟨.finite s k e, _, ?_, rfl⟩
  rw [timestamp_of_seconds? hn, Double.ofInt, hfirst, hsecond, hsum]

/-- What has a timestamp is placed. -/
theorem exists_of_timestamp {zone : Zone} {x : Double} (h : m.timestamp zone = .ok x) :
    ∃ n, zone.seconds? m = some n := by
  cases hn : zone.seconds? m with
  | some n => exact ⟨n, rfl⟩
  | none =>
    simp only [timestamp, hn] at h
    cases h

end ChatFlow.Moment
