import ChatFlow.Proofs.Clock.Calendar
import ChatFlow.Proofs.Clock.Iso
import ChatFlow.Schedule.Due

/-!
# What being due tells

Whether a task is due, read backwards, for a task that ran last at a moment of the clock.

* `Task.passedSince_iff` — an interval has passed when the distance of the moments, rounded to a
  double, reaches it;
* `Task.passedSince_of_le` — it has passed since any earlier moment as well;
* `Task.passedSince_iff_le` — **up to `2 ^ 34` seconds it has passed to the microsecond**;
* `Task.sameDate_of_isDue`, `Task.passedSince_of_isDue` — what is known of a task that is due;
* `Task.isDue_eq` — **a task can be looked at unless it has no distance from the clock**.
-/

namespace ChatFlow.Task

variable {seconds : Int} {first last now : Moment}

theorem natAbs_distance_le (hlast : last.isValid = true) (hnow : now.isValid = true) :
    (now.epochMicros - last.epochMicros).natAbs ≤ 2 ^ 52 * 1000000 := by
  have hfrom := Moment.natAbs_epochSeconds_le hlast
  have hto := Moment.natAbs_epochSeconds_le hnow
  have := ((Moment.isValid_iff last).mp hlast).2.2.2.2.2.2
  have := ((Moment.isValid_iff now).mp hnow).2.2.2.2.2.2
  unfold Moment.epochMicros
  omega

/-- **An interval has passed** when the distance in seconds, rounded to a double, reaches it. -/
theorem passedSince_iff (hlast : last.isValid = true) (hnow : now.isValid = true)
    (hseconds : 0 < seconds) : passedSince seconds last now = true ↔
      last.epochMicros ≤ now.epochMicros ∧
        (seconds : ℚ) ≤ Double.nearest (now.epochMicros - last.epochMicros).natAbs 1000000 := by
  have hmillion : 0 < 1000000 := by norm_num
  have hrange : ((now.epochMicros - last.epochMicros).natAbs / (1000000 : Nat) : ℚ) <
      2 ^ (1023 : Int) := by
    refine Double.lt_range ?_
    rw [div_lt_iff₀ (by exact_mod_cast hmillion)]
    have hle : ((now.epochMicros - last.epochMicros).natAbs : ℚ) ≤ 2 ^ 52 * 1000000 := by
      exact_mod_cast natAbs_distance_le hlast hnow
    exact hle.trans_lt (by norm_num)
  obtain ⟨m, e, hdouble, hvalue⟩ := Double.ofRatio_eq
    (decide (now.epochMicros - last.epochMicros < 0)) _ hmillion hrange
  unfold passedSince secondsBetween
  rw [hdouble, Double.atLeast_iff hseconds, hvalue, decide_eq_false_iff_not]
  have hsign : ¬ now.epochMicros - last.epochMicros < 0 ↔ last.epochMicros ≤ now.epochMicros := by
    omega
  rw [hsign]

/-- **An interval has passed since any earlier moment as well.** -/
theorem passedSince_of_le (hfirst : first.isValid = true) (hlast : last.isValid = true)
    (hnow : now.isValid = true) (hseconds : 0 < seconds)
    (hle : first.epochMicros ≤ last.epochMicros) (h : passedSince seconds last now = true) :
    passedSince seconds first now = true := by
  rw [passedSince_iff hlast hnow hseconds] at h
  rw [passedSince_iff hfirst hnow hseconds]
  refine ⟨hle.trans h.1, h.2.trans (Double.nearest_mono (by norm_num) (by norm_num) ?_)⟩
  have hdistance : (now.epochMicros - last.epochMicros).natAbs ≤
      (now.epochMicros - first.epochMicros).natAbs := by omega
  gcongr

/-- **Up to `2 ^ 34` seconds an interval has passed to the microsecond.** -/
theorem passedSince_iff_le (hlast : last.isValid = true) (hnow : now.isValid = true)
    (hseconds : 0 < seconds) (hexact : seconds ≤ 2 ^ 34) :
    passedSince seconds last now = true ↔
      seconds * 1000000 ≤ now.epochMicros - last.epochMicros := by
  rw [passedSince_iff hlast hnow hseconds]
  obtain ⟨k, rfl⟩ := Int.eq_ofNat_of_zero_le hseconds.le
  have hk : k ≤ 2 ^ 34 := by omega
  constructor
  · rintro ⟨hle, hnearest⟩
    have := Double.le_of_le_nearest hk (by exact_mod_cast hnearest)
    omega
  · intro hpassed
    refine ⟨by omega, ?_⟩
    have hnearest : (k : ℚ) ≤ Double.nearest (now.epochMicros - last.epochMicros).natAbs 1000000 :=
      Double.le_nearest (by norm_num) (by omega) (by omega)
    exact_mod_cast hnearest

/-! ## Due tasks -/

variable {t : Task}

theorem lastMoment?_eq (h : t.lastRun = some last.isoText) (hlast : last.isValid = true) :
    t.lastMoment? = some (last, false) := by
  rw [lastMoment?, h, Option.bind_some, Moment.ofIso?_isoText hlast]

/-- **A daily task that is due did not run last on that day.** -/
theorem sameDate_of_isDue (hdue : t.isDue now = .ok true) (htype : t.taskType = "daily")
    (h : t.lastRun = some last.isoText) (hlast : last.isValid = true) :
    last.sameDate now = false := by
  unfold isDue at hdue
  rw [htype] at hdue
  split at hdue
  · cases hdue
  · have htoday : t.isDueToday now = true := Except.ok.inj hdue
    simp only [isDueToday, ranOn, lastMoment?_eq h hlast, Bool.and_eq_true,
      Bool.not_eq_true'] at htoday
    exact htoday.2

/-- **An interval task that is due has its interval behind it.** -/
theorem passedSince_of_isDue (hdue : t.isDue now = .ok true) (htype : t.taskType = "interval")
    (h : t.lastRun = some last.isoText) (hlast : last.isValid = true) :
    ∃ seconds, t.intervalSeconds = some seconds ∧ 0 < seconds ∧
      passedSince seconds last now = true := by
  unfold isDue at hdue
  rw [htype] at hdue
  split at hdue
  · cases hdue
  · have hagain : t.isDueAgain now = .ok true := hdue
    unfold isDueAgain at hagain
    rw [lastMoment?_eq h hlast] at hagain
    split at hagain
    · cases hagain
    · next seconds hseconds =>
      split at hagain
      · cases hagain
      · next hpos => exact ⟨seconds, hseconds, not_le.mp hpos, Except.ok.inj hagain⟩

/-! ## Tasks that cannot be looked at -/

/-- What goes wrong with a last run that has no distance from the clock. -/
def mixedClocks : Fault := .wrongType "can't subtract offset-naive and offset-aware datetimes"

/-- **A task without distance from the clock**: an interval task that is switched on, and that ran
last at a moment with an offset. -/
def zoned (t : Task) : Bool :=
  t.enabled && t.taskType = "interval" && decide (0 < t.intervalSeconds.getD 0) &&
    (t.lastMoment?.map Prod.snd).getD false

/-- Whether a task is found due. -/
def comesDue (now : Moment) (t : Task) : Bool :=
  match t.isDue now with
  | .ok due => due
  | .error _ => false

theorem comesDue_of_ok {due : Bool} (h : t.isDue now = .ok due) : t.comesDue now = due := by
  rw [comesDue, h]

/-- An interval task that is switched on cannot be looked at for the offset of its last run
alone. -/
theorem isDueAgain_cases (henabled : t.enabled = true) (htype : t.taskType = "interval")
    (now : Moment) : (∃ due, t.isDueAgain now = .ok due ∧ t.zoned = false) ∨
      t.isDueAgain now = .error mixedClocks ∧ t.zoned = true := by
  rw [isDueAgain, zoned, henabled, htype]
  rcases t.intervalSeconds with _ | seconds
  · exact .inl ⟨false, rfl, rfl⟩
  dsimp only [Option.getD_some]
  split
  · next hnone => exact .inl ⟨false, rfl, by simp [hnone]⟩
  next hpos =>
  rcases t.lastMoment? with _ | ⟨last, _ | _⟩
  · exact .inl ⟨true, rfl, by simp⟩
  · exact .inl ⟨_, rfl, by simp⟩
  · exact .inr ⟨rfl, by simpa using hpos⟩

theorem isDue_cases (t : Task) (now : Moment) :
    (∃ due, t.isDue now = .ok due ∧ t.zoned = false) ∨
      t.isDue now = .error mixedClocks ∧ t.zoned = true := by
  rw [isDue]
  split
  · next hdisabled =>
    exact .inl ⟨false, rfl, by simp [zoned, Bool.not_eq_true' _ ▸ hdisabled]⟩
  next henabled =>
  split
  · next htype => exact .inl ⟨_, rfl, by simp [zoned, htype]⟩
  · next htype => exact isDueAgain_cases (by simpa using henabled) htype now
  · next hother =>
    have htype : t.taskType ≠ "interval" := hother
    exact .inl ⟨false, rfl, by simp [zoned, htype]⟩

/-- **A task can be looked at unless it has no distance from the clock.** -/
theorem isDue_eq (t : Task) (now : Moment) :
    t.isDue now = if t.zoned then .error mixedClocks else .ok (t.comesDue now) := by
  rcases isDue_cases t now with ⟨due, hdue, hzoned⟩ | ⟨hfault, hzoned⟩
  · rw [hzoned, comesDue_of_ok hdue, hdue]
    rfl
  · rw [hzoned, hfault]
    rfl

end ChatFlow.Task
