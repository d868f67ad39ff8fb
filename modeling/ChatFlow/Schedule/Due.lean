import ChatFlow.Clock.Iso
import ChatFlow.Schedule.Task

/-!
# When tasks are due

* A daily task is due in the minute of its time, on its weekdays, unless it already ran that day.
* An interval task is due when its interval has passed since it ran last.
* Any other task is never due.

A last run that cannot be read counts as none. A last run with an offset has a date, but no
distance from the clock, which has no offset.
-/

namespace ChatFlow.Task

/-- When the task ran last, and whether an offset was written with it. -/
def lastMoment? (t : Task) : Option (Moment × Bool) := t.lastRun.bind Moment.ofIso?

/-- Whether the weekdays of the task allow a moment. -/
def allowsDay (t : Task) (now : Moment) : Bool :=
  t.weekdays.isEmpty || t.weekdays.contains (now.weekday : Int)

/-- Whether the task ran on the day of a moment. -/
def ranOn (t : Task) (now : Moment) : Bool :=
  match t.lastMoment? with
  | some (last, _) => last.sameDate now
  | none => false

/-- Whether a daily task is due. -/
def isDueToday (t : Task) (now : Moment) : Bool :=
  t.dailyTime = some now.shortTime && t.allowsDay now && !t.ranOn now

/-- The seconds from one moment to another. -/
def secondsBetween (last now : Moment) : Double :=
  let micros := now.epochMicros - last.epochMicros
  Double.ofRatio (decide (micros < 0)) micros.natAbs 1000000

/-- Whether an interval has passed since a moment. -/
def passedSince (seconds : Int) (last now : Moment) : Bool :=
  (Number.double (secondsBetween last now)).atLeast (.int seconds)

/-- Whether an interval task is due. -/
def isDueAgain (t : Task) (now : Moment) : Except Fault Bool :=
  match t.intervalSeconds with
  | none => .ok false
  | some seconds =>
    if seconds ≤ 0 then .ok false
    else match t.lastMoment? with
      | none => .ok true
      | some (last, false) => .ok (passedSince seconds last now)
      | some (_, true) =>
        .error (.wrongType "can't subtract offset-naive and offset-aware datetimes")

/-- **Whether a task is due** at a moment: by its time of day and weekdays, or by the seconds since it
last ran. -/
def isDue (t : Task) (now : Moment) : Except Fault Bool :=
  if !t.enabled then .ok false
  else match t.taskType with
    | "daily" => .ok (t.isDueToday now)
    | "interval" => t.isDueAgain now
    | _ => .ok false

end ChatFlow.Task
