import ChatFlow.Proofs.Schedule.Days

/-!
# Every task has its turn

A check looks at all tasks in their order and executes what it finds due. A workflow that is
missing, is switched off or fails does not stand in the way of the tasks behind it, nor does a last
run that cannot be read. A last run with an offset does.

* `checkAt_turns` — **what is due is executed in order**, unless a task before it cannot be looked
  at;
* `check_blocked` — such a task is admitted, and keeps the others from having their turn.
-/

namespace ChatFlow.Scheduler

/-- **Every task has its turn.** Where all workflows are at hand and the numbers of the tasks can be
written, a check begins the execution of what it finds due, in the order of the table and each task
as it stands there; it runs nothing else. It comes to its end and answers which tasks ran, unless a
task cannot be looked at. Where all tasks can be, that is: the check ends, and everything that is
due has its turn. -/
theorem checkAt_turns {runner : Option Runner} (hr : Dependable runner) {bot : Bot}
    (hs : bot.agenda.Sound) {workflows : List Workflow}
    (hworkflows : bot.workflows? = .done workflows) (htasks : ∀ t ∈ bot.agenda.tasks, t.Lasting)
    (now : Moment) :
    let bookings := bot.agenda.bookings.map Prod.snd
    let begun := starts runner now bot
    begun.map Start.booking = reached now bookings ∧
      (∀ s ∈ begun, s.Answers runner workflows) ∧
      (∀ other, (∀ s ∈ begun, execute other s.booking s.bot = execute runner s.booking s.bot) →
        checkAt other now bot = checkAt runner now bot) ∧
      ((∃ t ∈ bot.agenda.tasks, t.zoned = true) →
        ∃ after, checkAt runner now bot = (.failed Task.mixedClocks, after)) ∧
      ((∀ t ∈ bot.agenda.tasks, t.zoned = false) →
        begun.map Start.booking = bookings.filter (fun b => b.task.comesDue now) ∧
          ∃ after, checkAt runner now bot = (.done ((begun.filter (Start.ran runner)).map
            fun s => s.booking.task.id), after)) := by
  intro bookings begun
  obtain ⟨hbookings, hanswers, hending⟩ := checkAt_reaches hr hs hworkflows htasks now
  refine ⟨hbookings, hanswers, fun other h => checkNext_congr h, ?_,
    fun hlooked => checkAt_reaches_all hr hs hworkflows htasks hlooked now⟩
  rintro ⟨t, ht, hzoned⟩
  obtain ⟨entry, hentry, rfl⟩ := List.mem_map.mp ht
  have hany : (bot.agenda.bookings.map Prod.snd).any (fun b => b.task.zoned) = true :=
    List.any_eq_true.mpr ⟨entry.2, List.mem_map_of_mem hentry, hzoned⟩
  rw [hany] at hending
  exact ⟨_, Prod.ext hending rfl⟩

/-! ## Two tasks -/

namespace Alarm

/-- Half past two in the afternoon. -/
def afternoon : Moment := ⟨2024, 3, 15, 14, 30, 0, 0⟩

/-- An interval task that ran before. Its workflow is gone. -/
def first (last : String) : Table Value :=
  [("id", .text "first"), ("workflow_id", .text "gone"), ("target_id", .text "1"),
    ("task_type", .text "interval"), ("interval_seconds", .int 3600), ("last_run", .text last)]

/-- The task as it is admitted. -/
def firstTask (last : String) : Task :=
  ⟨"first", "gone", "interval", none, some 3600, [], "group", "1", none, true, some last, 0, ""⟩

/-- A daily task behind it. -/
def second : Table Value :=
  [("id", .text "second"), ("workflow_id", .text "quiet"), ("target_id", .text "1"),
    ("daily_time", .text "14:30")]

/-- The task as it is admitted. -/
def secondTask : Task :=
  ⟨"second", "quiet", "daily", some "14:30", none, [], "group", "1", none, true, none, 0, ""⟩

/-- The afternoon of another clock: a last run with an offset. -/
def elsewhere : String := "2024-03-15T14:29:00+00:00"

/-- The scheduler with both tasks added, in the afternoon. -/
def both (last : String) : Bot := after bot [.add (first last), .add second, .wait afternoon]

theorem dependable_runner : Dependable (some runner) :=
  dependable_of_reliable (reliable_some reliable_runner)

theorem accept_first (last : String) : Task.accept (first last) = .ok (firstTask last) := rfl

theorem accept_second : Task.accept second = .ok secondTask := rfl

theorem agenda_both (last : String) :
    (both last).agenda = (Agenda.empty.book (firstTask last)).book secondTask := by
  have hfirst := (writes_add bot (accept_first last)).agenda
  have hsecond := (writes_add (add (first last) bot).2 accept_second).agenda
  have hboth : (both last).agenda = (add second (add (first last) bot).2).2.agenda := by
    simp only [both, after, Command.after]
  rw [hboth, hsecond, hfirst, show bot.agenda = Agenda.empty from rfl]

theorem sound_both (last : String) : (both last).agenda.Sound := by
  rw [agenda_both]
  exact (Agenda.sound_empty.book _).book _

theorem workflows?_both (last : String) : (both last).workflows? = .done [quiet] := by
  have hreliable : ∀ c ∈ [Command.add (first last), .add second, .wait afternoon],
      c.Reliable := by
    simp [Command.Reliable]
  exact workflows?_after hreliable bot

theorem lasting_firstTask (last : String) : (firstTask last).Lasting where
  interval {n} h := by
    obtain rfl := Option.some.inj h
    exact Number.writable_int (show 3600 ≤ 4300 by decide)
  weekdays := nofun
  runCount := Number.writable_int (show 0 ≤ 4300 by decide)
  counted := Number.writable_int (show 1 ≤ 4300 by decide)

theorem lasting_secondTask : secondTask.Lasting where
  interval := nofun
  weekdays := nofun
  runCount := Number.writable_int (show 0 ≤ 4300 by decide)
  counted := Number.writable_int (show 1 ≤ 4300 by decide)

theorem tasks_both (last : String) :
    (both last).agenda.tasks = [firstTask last, secondTask] := by
  rw [agenda_both]
  rfl

theorem lasting_both (last : String) : ∀ t ∈ (both last).agenda.tasks, t.Lasting := by
  rw [tasks_both, List.forall_mem_cons, List.forall_mem_singleton]
  exact ⟨lasting_firstTask last, lasting_secondTask⟩

end Alarm

/-- A last run that cannot be read is no obstacle: the first task is looked at, and the second one
runs. -/
theorem checkAt_turns_unread :
    (starts (some Alarm.runner) Alarm.afternoon (Alarm.both "yesterday")).map Start.booking =
        [⟨0, Alarm.firstTask "yesterday"⟩, ⟨1, Alarm.secondTask⟩] ∧
      ∃ after, checkAt (some Alarm.runner) Alarm.afternoon (Alarm.both "yesterday") =
        (.done ["second"], after) := by
  have hlooked : ∀ t ∈ (Alarm.both "yesterday").agenda.tasks, t.zoned = false := by
    rw [Alarm.agenda_both]
    decide
  obtain ⟨-, -, -, -, hall⟩ := checkAt_turns Alarm.dependable_runner
    (Alarm.sound_both "yesterday") (Alarm.workflows?_both "yesterday")
    (Alarm.lasting_both "yesterday") Alarm.afternoon
  obtain ⟨hbookings, after, hrun⟩ := hall hlooked
  have hids : ((starts (some Alarm.runner) Alarm.afternoon (Alarm.both "yesterday")).filter
      (Start.ran (some Alarm.runner))).map (fun s => s.booking.task.id) = ["second"] := by
    decide +kernel
  rw [hbookings, Alarm.agenda_both]
  exact ⟨by decide +kernel, after, hids ▸ hrun⟩

/-- **A task can stand in the way of another.** An interval task that is said to have run last at a
moment with an offset is admitted, but it cannot be looked at; the task behind it is due and works,
and has no turn. -/
theorem check_blocked :
    Task.accept (Alarm.first Alarm.elsewhere) = .ok (Alarm.firstTask Alarm.elsewhere) ∧
      Task.accept Alarm.second = .ok Alarm.secondTask ∧
      (Alarm.both Alarm.elsewhere).agenda.tasks =
        [Alarm.firstTask Alarm.elsewhere, Alarm.secondTask] ∧
      (Alarm.both Alarm.elsewhere).workflows? = .done [Alarm.quiet] ∧
      Dependable (some Alarm.runner) ∧
      Alarm.secondTask.isDue Alarm.afternoon = .ok true ∧
      Works Alarm.runner [Alarm.quiet] Alarm.secondTask ∧
      starts (some Alarm.runner) Alarm.afternoon (Alarm.both Alarm.elsewhere) = [] ∧
      ∃ after, checkAt (some Alarm.runner) Alarm.afternoon (Alarm.both Alarm.elsewhere) =
        (.failed Task.mixedClocks, after) := by
  obtain ⟨hbookings, -, hending⟩ := checkAt_reaches Alarm.dependable_runner
    (Alarm.sound_both Alarm.elsewhere) (Alarm.workflows?_both Alarm.elsewhere)
    (Alarm.lasting_both Alarm.elsewhere) Alarm.afternoon
  have hnone : reached Alarm.afternoon
      ((Alarm.both Alarm.elsewhere).agenda.bookings.map Prod.snd) = [] := by
    rw [Alarm.agenda_both]
    decide +kernel
  have hzoned : ((Alarm.both Alarm.elsewhere).agenda.bookings.map Prod.snd).any
      (fun b => b.task.zoned) = true := by
    rw [Alarm.agenda_both]
    decide +kernel
  rw [hnone, List.map_eq_nil_iff] at hbookings
  rw [hzoned, if_pos rfl] at hending
  rcases hrun : checkAt (some Alarm.runner) Alarm.afternoon (Alarm.both Alarm.elsewhere) with
    ⟨ending, after⟩
  rw [hrun] at hending
  exact ⟨rfl, rfl, Alarm.tasks_both _, Alarm.workflows?_both _, Alarm.dependable_runner,
    by decide +kernel, ⟨Alarm.quiet, rfl, rfl, fun _ => rfl⟩, hbookings, after,
    congrArg (·, after) hending⟩

end ChatFlow.Scheduler
