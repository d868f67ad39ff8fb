import ChatFlow.Proofs.Json.Numbers
import ChatFlow.Proofs.Number.Literals
import ChatFlow.Proofs.Schedule.Due
import ChatFlow.Proofs.Schedule.Roster

/-!
# Prospects

A task may be admitted to the schedule and never be due, at no reading of the clock. What it takes to
be due some time is read off the task.

* `Moment.isClockTime_iff` — **the texts that the clock shows** for an hour and a minute;
* `Moment.epochMicros_le_final` — no moment is behind the last one of the year 9999;
* `Moment.exists_weekday` — a time of day comes on every weekday, and on another day than a given one;
* `Task.isHopeful` — whether a task can be due some time;
* `Task.due_sometime_iff` — **an admitted task is due some time exactly if it is hopeful**;
* `Task.admitted_never_due` — not every admitted task is.
-/

namespace ChatFlow

namespace Moment

/-! ## What the clock shows -/

/-- Digits of one length are told apart by their value. -/
theorem eq_of_digitsValue {s t : List Char} (hs : ∀ c ∈ s, c.isDigit = true)
    (ht : ∀ c ∈ t, c.isDigit = true) (hlength : s.length = t.length)
    (hvalue : Json.digitsValue s = Json.digitsValue t) : s = t := by
  induction s using List.reverseRecOn generalizing t with
  | nil => exact (List.length_eq_zero_iff.mp hlength.symm).symm
  | append_singleton s c ih =>
    obtain rfl | ⟨t, d, rfl⟩ := List.eq_nil_or_concat t
    · simp at hlength
    rw [List.concat_eq_append] at *
    rw [List.forall_mem_append, List.forall_mem_singleton] at hs ht
    rw [List.length_append, List.length_append, List.length_singleton, List.length_singleton,
      Nat.add_right_cancel_iff] at hlength
    have hlast (e : Char) : Json.digitsValue [e] = e.toNat - 48 := by simp [Json.digitsValue]
    have hc := isDigit_bounds hs.2
    have hd := isDigit_bounds ht.2
    simp only [Json.digitsValue_append, List.length_singleton, pow_one, hlast] at hvalue
    have hchar : c = d := Char.toNat_inj.mp (by omega)
    rw [ih hs.1 ht.1 hlength (by omega), hchar]

/-- Two digits are written as they are read. -/
theorem padded_digitsValue {a b : Char} (ha : a.isDigit = true) (hb : b.isDigit = true)
    (h : Json.digitsValue [a, b] < 100) : padded 2 (Json.digitsValue [a, b]) = [a, b] := by
  refine eq_of_digitsValue (fun _ => isDigit_of_mem_padded) ?_ (length_padded two_pos h)
    (digitsValue_padded 2 _)
  simp [ha, hb]

/-- **Whether a text is an hour and a minute of the clock**: two digits, a colon and two digits, with
less than 24 hours and less than 60 minutes. -/
def isClockTime (s : String) : Bool :=
  match s.toList with
  | [a, b, ':', c, d] =>
    [a, b, c, d].all Char.isDigit && decide (Json.digitsValue [a, b] < 24) &&
      decide (Json.digitsValue [c, d] < 60)
  | _ => false

/-- A moment of the second week of the year 2024, or of a week that follows: that year began on a
Monday. -/
def inWeek (week day hour minute : Nat) : Moment := ⟨2024, 1, 7 + 7 * week + day, hour, minute, 0, 0⟩

theorem isValid_inWeek {week day hour minute : Nat} (hweek : week < 3) (hday : day < 7)
    (hhour : hour < 24) (hminute : minute < 60) : (inWeek week day hour minute).isValid = true := by
  have hdays : daysIn 2024 1 = 31 := rfl
  rw [isValid_iff]
  simp only [inWeek, hdays]
  omega

theorem isClockTime_shortTime {m : Moment} (h : m.isValid = true) :
    isClockTime m.shortTime = true := by
  obtain ⟨-, -, -, hhour, hminute, -⟩ := (isValid_iff m).mp h
  obtain ⟨a, b, hab⟩ := List.length_eq_two.mp (length_padded two_pos (show m.hour < 10 ^ 2 by omega))
  obtain ⟨c, d, hcd⟩ :=
    List.length_eq_two.mp (length_padded two_pos (show m.minute < 10 ^ 2 by omega))
  have hfirst : ∀ e ∈ [a, b], e.isDigit = true := hab ▸ fun _ => isDigit_of_mem_padded
  have hlast : ∀ e ∈ [c, d], e.isDigit = true := hcd ▸ fun _ => isDigit_of_mem_padded
  have hvalues : Json.digitsValue [a, b] = m.hour ∧ Json.digitsValue [c, d] = m.minute :=
    ⟨hab ▸ digitsValue_padded 2 _, hcd ▸ digitsValue_padded 2 _⟩
  have htext : m.shortTime.toList = [a, b, ':', c, d] := by
    rw [shortTime, String.toList_ofList, hab, hcd]
    rfl
  simp only [List.forall_mem_cons] at hfirst hlast
  simp [isClockTime, htext, hvalues, hfirst, hlast, hhour, hminute]

/-- **The clock shows** the hours and minutes of two digits, and nothing else. -/
theorem isClockTime_iff (s : String) : isClockTime s = true ↔
    ∃ hour minute, hour < 24 ∧ minute < 60 ∧
      ∀ m : Moment, m.hour = hour → m.minute = minute → m.shortTime = s := by
  constructor
  · intro h
    unfold isClockTime at h
    split at h
    · next a b c d hs =>
      simp only [List.all_cons, List.all_nil, Bool.and_eq_true, decide_eq_true_eq,
        Bool.and_true] at h
      obtain ⟨⟨⟨ha, hb, hc, hd⟩, hhour⟩, hminute⟩ := h
      refine ⟨_, _, hhour, hminute, fun m hm hn => ?_⟩
      rw [shortTime, hm, hn, padded_digitsValue ha hb (by omega), padded_digitsValue hc hd (by omega)]
      exact String.toList_injective (by rw [String.toList_ofList, hs]; rfl)
    · cases h
  · rintro ⟨hour, minute, hhour, hminute, hshown⟩
    rw [← hshown (inWeek 0 0 hour minute) rfl rfl]
    exact isClockTime_shortTime (isValid_inWeek (by decide) (by decide) hhour hminute)

/-! ## Days of a time -/

theorem weekday_inWeek {week day hour minute : Nat} (hday : day < 7) :
    (inWeek week day hour minute).weekday = day := by
  have hfirst : ordinalOf 2024 1 0 = 738885 := rfl
  have hordinal : (inWeek week day hour minute).ordinal =
      ordinalOf 2024 1 0 + (7 + 7 * week + day) := rfl
  rw [weekday, hordinal]
  omega

/-- **A time of day comes on every weekday**, and on another day than a given one. -/
theorem exists_weekday {day hour minute : Nat} (hday : day < 7) (hhour : hour < 24)
    (hminute : minute < 60) (last : Moment) : ∃ now : Moment, now.isValid = true ∧
      now.hour = hour ∧ now.minute = minute ∧ now.weekday = day ∧ last.sameDate now = false := by
  -- two weeks are tried, and a moment is of one day only
  by_cases h : last.sameDate (inWeek 0 day hour minute) = true
  · refine ⟨inWeek 1 day hour minute, isValid_inWeek (by decide) hday hhour hminute, rfl, rfl,
      weekday_inWeek hday, ?_⟩
    obtain ⟨-, hsame⟩ := Bool.and_eq_true_iff.mp h
    have hfirst : last.day = 7 + 7 * 0 + day := of_decide_eq_true hsame
    have hother : last.day ≠ 7 + 7 * 1 + day := by omega
    exact Bool.and_eq_false_iff.mpr (.inr (decide_eq_false hother))
  · exact ⟨inWeek 0 day hour minute, isValid_inWeek (by decide) hday hhour hminute, rfl, rfl,
      weekday_inWeek hday, Bool.eq_false_iff.mpr h⟩

/-! ## The last moment -/

/-- **The last moment** that the clock can show. -/
def final : Moment := ⟨9999, 12, 31, 23, 59, 59, 999999⟩

theorem isValid_final : final.isValid = true := by decide

theorem ordinal_le_final {m : Moment} (h : m.isValid = true) : m.ordinal ≤ final.ordinal := by
  obtain ⟨⟨-, hyear⟩, ⟨-, hmonth⟩, ⟨-, hday⟩, -⟩ := (isValid_iff m).mp h
  rcases Nat.lt_or_eq_of_le hyear with hless | hlast
  · exact (ordinal_lt_of_year h isValid_final hless).le
  rcases Nat.lt_or_eq_of_le hmonth with hless | hend
  · exact (ordinal_lt_of_month h isValid_final hlast hless).le
  rw [ordinal_eq, ordinal_eq, hlast, hend]
  exact Nat.add_le_add_left (hday.trans (daysIn_le _ _)) _

/-- **No moment is behind the last one.** -/
theorem epochMicros_le_final {m : Moment} (h : m.isValid = true) :
    m.epochMicros ≤ final.epochMicros := by
  have hordinal := ordinal_le_final h
  obtain ⟨-, -, -, hhour, hminute, hsecond, hmicro⟩ := (isValid_iff m).mp h
  unfold epochMicros epochSeconds
  have hend : final.hour = 23 ∧ final.minute = 59 ∧ final.second = 59 ∧ final.micro = 999999 :=
    ⟨rfl, rfl, rfl, rfl⟩
  omega

/-- What is read is a moment. -/
theorem isValid_of_ofIso? {s : String} {m : Moment} {zoned : Bool}
    (h : ofIso? s = some (m, zoned)) : m.isValid = true := by
  have hmade {x : Moment} {z : Bool} (hx : (if x.isValid = true then some (x, z) else none) =
      some (m, zoned)) : m.isValid = true := by
    obtain ⟨hvalid, hpair⟩ := Option.ite_none_right_eq_some.mp hx
    obtain rfl : x = m := congrArg Prod.fst (Option.some.inj hpair)
    exact hvalid
  unfold ofIso? at h
  dsimp only at h
  split at h
  · cases h
  obtain ⟨stop, -, h⟩ := Option.bind_eq_some_iff.mp h
  obtain ⟨date, -, h⟩ := Option.bind_eq_some_iff.mp h
  split at h
  · obtain ⟨_, -, h⟩ := Option.bind_eq_some_iff.mp h
    exact hmade h
  · obtain ⟨_, -, h⟩ := Option.bind_eq_some_iff.mp h
    exact hmade h

end Moment

namespace Task

variable {t : Task} {now : Moment}

/-! ## What it takes to be due -/

theorem isValid_of_lastMoment? {last : Moment} {zoned : Bool}
    (h : t.lastMoment? = some (last, zoned)) : last.isValid = true := by
  obtain ⟨s, -, hread⟩ := Option.bind_eq_some_iff.mp h
  exact Moment.isValid_of_ofIso? hread

/-- **An interval that has passed has passed later on as well.** -/
theorem passedSince_mono {seconds : Int} {last later : Moment} (hlast : last.isValid = true)
    (hnow : now.isValid = true) (hlater : later.isValid = true) (hseconds : 0 < seconds)
    (hle : now.epochMicros ≤ later.epochMicros) (h : passedSince seconds last now = true) :
    passedSince seconds last later = true := by
  rw [passedSince_iff hlast hnow hseconds] at h
  rw [passedSince_iff hlast hlater hseconds]
  refine ⟨h.1.trans hle, h.2.trans (Double.nearest_mono (by norm_num) (by norm_num) ?_)⟩
  have hdistance : (now.epochMicros - last.epochMicros).natAbs ≤
      (later.epochMicros - last.epochMicros).natAbs := by omega
  gcongr

/-- **Whether a task can be due some time.** The time of a daily task is one that the clock shows. An
interval task has not run, as far as can be read; or it ran at a moment without an offset, and its
interval has passed when the clock shows its last moment. -/
def isHopeful (t : Task) : Bool :=
  match t.taskType with
  | "daily" => (t.dailyTime.map Moment.isClockTime).getD false
  | "interval" =>
    match t.lastMoment? with
    | none => true
    | some (last, false) => passedSince (t.intervalSeconds.getD 0) last Moment.final
    | some (_, true) => false
  | _ => false

/-- Whether the weekdays of a task allow any day. -/
def AllowsSome (t : Task) : Prop := t.weekdays = [] ∨ ∃ day ∈ t.weekdays, 0 ≤ day ∧ day ≤ 6

theorem AllowsSome.exists_day (h : t.AllowsSome) : ∃ day < 7, ∀ now : Moment, now.weekday = day →
    t.allowsDay now = true := by
  rcases h with hall | ⟨day, hday, hfirst, hlast⟩
  · exact ⟨0, by decide, fun now _ => by simp [allowsDay, hall]⟩
  · refine ⟨day.toNat, by omega, fun now hnow => ?_⟩
    have hcast : (now.weekday : Int) = day := by omega
    simp [allowsDay, hcast, hday]

theorem isDue_daily (henabled : t.enabled = true) (htype : t.taskType = "daily") (now : Moment) :
    t.isDue now = .ok (t.isDueToday now) := by
  rw [isDue, henabled, htype]
  rfl

theorem isDue_interval (henabled : t.enabled = true) (htype : t.taskType = "interval")
    (now : Moment) : t.isDue now = t.isDueAgain now := by
  rw [isDue, henabled, htype]
  rfl

/-- **A daily task is due some time** exactly if its time is one that the clock shows. -/
theorem daily_due_iff (henabled : t.enabled = true) (htype : t.taskType = "daily")
    (hdays : t.AllowsSome) :
    (∃ now : Moment, now.isValid = true ∧ t.isDue now = .ok true) ↔ t.isHopeful = true := by
  have hhopeful : t.isHopeful = (t.dailyTime.map Moment.isClockTime).getD false := by
    rw [isHopeful, htype]
    rfl
  simp only [isDue_daily henabled htype, Except.ok.injEq, hhopeful]
  constructor
  · rintro ⟨now, hnow, hdue⟩
    simp only [isDueToday, Bool.and_eq_true, decide_eq_true_eq] at hdue
    rw [hdue.1.1]
    exact Moment.isClockTime_shortTime hnow
  · intro htime
    rcases hd : t.dailyTime with _ | s <;> rw [hd] at htime
    · cases htime
    obtain ⟨hour, minute, hhour, hminute, hshown⟩ := (Moment.isClockTime_iff s).mp htime
    obtain ⟨day, hday, hallowed⟩ := hdays.exists_day
    -- any day will do on which it did not run last
    obtain ⟨now, hnow, hh, hm, hweekday, hother⟩ := Moment.exists_weekday hday hhour hminute
      ((t.lastMoment?.map Prod.fst).getD default)
    have hran : t.ranOn now = false := by
      unfold ranOn
      rcases hl : t.lastMoment? with _ | ⟨last, zoned⟩
      · rfl
      · rw [hl] at hother
        exact hother
    exact ⟨now, hnow, by simp [isDueToday, hd, hshown now hh hm, hallowed now hweekday, hran]⟩

/-- **An interval task is due some time** exactly if it is due at the last moment. -/
theorem interval_due_iff (henabled : t.enabled = true) (htype : t.taskType = "interval")
    {seconds : Int} (hseconds : t.intervalSeconds = some seconds) (hpos : 0 < seconds) :
    (∃ now : Moment, now.isValid = true ∧ t.isDue now = .ok true) ↔ t.isHopeful = true := by
  simp only [isDue_interval henabled htype, isDueAgain, hseconds, if_neg (not_le.mpr hpos)]
  rw [isHopeful, htype, hseconds]
  rcases hl : t.lastMoment? with _ | ⟨last, _ | _⟩
  · exact iff_of_true ⟨Moment.final, Moment.isValid_final, rfl⟩ rfl
  · have hlast := isValid_of_lastMoment? hl
    constructor
    · rintro ⟨now, hnow, hdue⟩
      exact passedSince_mono hlast hnow Moment.isValid_final hpos (Moment.epochMicros_le_final hnow)
        (Except.ok.inj hdue)
    · exact fun h => ⟨Moment.final, Moment.isValid_final, congrArg Except.ok h⟩
  · refine iff_of_false ?_ Bool.false_ne_true
    rintro ⟨now, -, hdue⟩
    cases hdue

/-- **An admitted task is due some time** exactly if it is hopeful, as far as it is switched on and its
weekdays allow any day: if it is a daily task at a time that the clock shows, or an interval task that
has not run, or whose interval has passed at the last moment of the clock. -/
theorem due_sometime_iff {data : Table Value} (haccept : accept data = .ok t)
    (henabled : t.enabled = true) (hdays : t.AllowsSome) :
    (∃ now : Moment, now.isValid = true ∧ t.isDue now = .ok true) ↔ t.isHopeful = true := by
  by_cases hdaily : t.taskType = "daily"
  · exact daily_due_iff henabled hdaily hdays
  by_cases hinterval : t.taskType = "interval"
  · obtain ⟨seconds, hseconds, hlong⟩ := (sensible_of_accept haccept).1.interval hinterval
    exact interval_due_iff henabled hinterval hseconds (by omega)
  · exact iff_of_false (fun ⟨now, _, hdue⟩ => by simp [isDue, henabled] at hdue)
      (by simp [isHopeful])

/-! ## Tasks without prospect -/

/-- A task for midnight on Wednesdays, which is written as the end of the day. -/
def midnightData : Table Value :=
  [("id", .text "alarm"), ("workflow_id", .text "quiet"), ("target_id", .text "1"),
    ("daily_time", .text "24:00"), ("weekdays", .list [.int 3])]

/-- The same task, an hour earlier. -/
def eveningData : Table Value := midnightData.insert "daily_time" (.text "23:00")

/-- An hour before the end of a Wednesday is a time that comes. -/
theorem due_sometime_evening : ∃ t, accept eveningData = .ok t ∧
    ∃ now : Moment, now.isValid = true ∧ t.isDue now = .ok true := by
  have haccept : accept eveningData = .ok ⟨"alarm", "quiet", "daily", some "23:00", none, [3], "group",
      "1", none, true, none, 0, ""⟩ := rfl
  exact ⟨_, haccept, (due_sometime_iff haccept rfl (.inr ⟨3, by decide, by decide, by decide⟩)).mpr
    (by decide)⟩

/-- **A task can be admitted that is never due**, although it is switched on and its weekdays allow a
day: the clock never shows its time. -/
theorem admitted_never_due : ∃ t, accept midnightData = .ok t ∧ t.enabled = true ∧
    t.taskType = "daily" ∧ t.AllowsSome ∧
    ∀ now : Moment, now.isValid = true → t.isDue now = .ok false := by
  refine ⟨⟨"alarm", "quiet", "daily", some "24:00", none, [3], "group", "1", none, true, none, 0, ""⟩,
    rfl, rfl, rfl, .inr ⟨3, by decide, by decide, by decide⟩, fun now hnow => ?_⟩
  rw [isDue_daily rfl rfl, Except.ok.injEq, isDueToday]
  have hshown : some "24:00" ≠ some now.shortTime := by
    intro h
    have htime := Moment.isClockTime_shortTime hnow
    rw [← Option.some.inj h] at htime
    exact absurd htime (by decide)
  simp [hshown]

end Task

end ChatFlow
