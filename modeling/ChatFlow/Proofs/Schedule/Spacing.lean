import ChatFlow.Proofs.Schedule.Progress
import ChatFlow.Proofs.Schedule.Walker

/-!
# No task fires too often

Executions of one task that follow each other, with no task added under its id between them, are
apart. Other commands may come between them in any order, time may pass, also while workflows run,
and the scheduler may start anew on its data directory.

* `Apart` — how far: a daily task is executed by checks of different days, an interval task when its
  interval has passed since the end of every earlier execution;
* `executions_apart` — **all executions of a task are apart**;
* `interval_cut_short` — an interval of more than `2 ^ 34` seconds can be a microsecond short.
-/

namespace ChatFlow.Scheduler

/-- **Two executions of a task are apart**, the second one by a check. -/
structure Apart (earlier later : Execution) : Prop where
  /-- checks execute a daily task once a day -/
  daily {asked now : Moment} (htype : later.task.taskType = "daily")
    (hearlier : earlier.asked = some asked) (hlater : later.asked = some now) :
    asked.sameDate now = false
  /-- the interval of an interval task has passed since the earlier execution had ended; when it is
  not longer than `2 ^ 34` seconds, it has passed to the microsecond -/
  interval {now : Moment} (htype : later.task.taskType = "interval")
    (hlater : later.asked = some now) :
    ∃ seconds, later.task.intervalSeconds = some seconds ∧
      Task.passedSince seconds earlier.ended now = true ∧
      (seconds ≤ 2 ^ 34 → seconds * 1000000 ≤ now.epochMicros - earlier.ended.epochMicros)

/-- All commands of a row go well. -/
def Smooth (bot : Bot) : List Command → Prop
  | [] => True
  | c :: rest => c.Smooth bot ∧ Smooth (c.after bot) rest

/-- No task is added under an id. -/
def Spares (id : String) (cs : List Command) : Prop :=
  ∀ data task, .add data ∈ cs → Task.accept data = .ok task → task.id ≠ id

/-- An execution that ended at a moment, and not before it was asked for. -/
structure Execution.Timely (e : Execution) : Prop where
  /-- it ended at a moment -/
  ended : e.ended.isValid = true
  /-- and was asked for at another, if at any -/
  asked {moment : Moment} (h : e.asked = some moment) :
    moment.isValid = true ∧ moment.epochMicros ≤ e.ended.epochMicros

section

variable {s t : Bot} {e earlier later : Execution} {now : Moment} {es : List Execution}
  {c : Command} {cs rest : List Command} {id : String}

/-! ## One command -/

theorem Answered.timely (h : Answered now t e) (hnow : now.isValid = true) : e.Timely := by
  refine ⟨h.valid, fun hasked => ?_⟩
  obtain ⟨rfl, -⟩ := h.asked hasked
  exact ⟨hnow, h.begun⟩

/-- Within a command no task is executed twice. -/
theorem Runs.pairwise_ne (h : Runs now s.agenda.tasks s t es) (hs : s.agenda.Sound) :
    es.Pairwise fun e₁ e₂ => e₁.task.id ≠ e₂.task.id := by
  have hids := (h.tasks.map Task.id).nodup hs.nodup_ids
  rw [List.map_map] at hids
  exact List.pairwise_map.mp hids

/-- **A due task is apart from an execution that has not been forgotten.** -/
theorem Runs.apart (hs : Steady s) (h : Runs s.world.now s.agenda.tasks s t es)
    (hlater : later ∈ es) (hearlier : earlier.Timely)
    (hran : RanSince later.task.id earlier.ended s) : Apart earlier later := by
  -- the task ran last between that execution and now
  obtain ⟨b, hb, htask⟩ :=
    hs.sound.find?_of_mem_tasks (h.tasks.subset (List.mem_map_of_mem hlater))
  obtain ⟨last, hlast, hwritten, hfirst, hnow⟩ := htask ▸ hran b hb
  constructor
  · intro asked now htype haskedFor hlooked
    obtain ⟨rfl, hdue⟩ := (h.answered hlater).asked hlooked
    obtain ⟨hvalid, hended⟩ := hearlier.asked haskedFor
    have hother := Task.sameDate_of_isDue hdue htype hwritten hlast
    rw [← Bool.not_eq_true] at hother ⊢
    -- on the day of both checks the task would have run last on that day
    intro hday
    exact hother
      (Moment.sameDate_of_between hvalid hlast hs.clock (hended.trans hfirst) hnow hday)
  · intro now htype hlooked
    obtain ⟨rfl, hdue⟩ := (h.answered hlater).asked hlooked
    obtain ⟨seconds, hseconds, hpos, hpassed⟩ :=
      Task.passedSince_of_isDue hdue htype hwritten hlast
    have hsince := Task.passedSince_of_le hearlier.ended hlast hs.clock hpos hfirst hpassed
    exact ⟨seconds, hseconds, hsince,
      fun hexact => (Task.passedSince_iff_le hearlier.ended hs.clock hpos hexact).mp hsince⟩

/-! ## Rows of commands -/

/-- A row of commands leaves the scheduler ready. -/
theorem Ready.after (hs : Ready s) (h : Smooth s cs) : Ready (after s cs) := by
  induction cs generalizing s with
  | nil => exact hs
  | cons c rest ih => exact ih (hs.command h.1) h.2

theorem smooth_append : Smooth s (cs ++ rest) ↔ Smooth s cs ∧ Smooth (after s cs) rest := by
  induction cs generalizing s with
  | nil => simp [Smooth, after]
  | cons c cs ih => simp only [List.cons_append, Smooth, after, ih, and_assoc]

theorem Spares.tail (h : Spares id (c :: cs)) : Spares id cs :=
  fun data task hmem => h data task (List.mem_cons_of_mem c hmem)

/-- **After an execution**, every execution of the same task is apart from it. -/
theorem apart_of_ranSince (hs : Ready s) (h : Smooth s cs) (hspares : Spares id cs)
    (hearlier : earlier.Timely) (hran : RanSince id earlier.ended s)
    (hlater : later ∈ executions s cs) (hid : later.task.id = id) : Apart earlier later := by
  -- each command in turn either brings the later execution about, or does not forget the earlier
  induction cs generalizing s with
  | nil => cases hlater
  | cons c cs ih =>
    rcases List.mem_append.mp hlater with hhead | htail
    · have hnone : ∀ data, c ≠ .add data := by
        rintro data rfl
        cases hhead
      exact (runs_command hs h.1 hnone).apart hs.toSteady hhead hearlier (hid.symm ▸ hran)
    · have hkept : RanSince id earlier.ended (c.after s) :=
        hran.command hs h.1 fun data task hc => hspares data task (hc ▸ List.mem_cons_self)
      exact ih (hs.command h.1) h.2 hspares.tail hkept htail

/-- All executions of a task that commands bring about are apart. -/
theorem pairwise_apart (hs : Ready s) (h : Smooth s cs) (hspares : Spares id cs) :
    (executions s cs).Pairwise fun e₁ e₂ => e₁.task.id = id → e₂.task.id = id → Apart e₁ e₂ := by
  induction cs generalizing s with
  | nil => exact .nil
  | cons c cs ih =>
    have hrest := ih (hs.command h.1) h.2 hspares.tail
    by_cases hnone : ∀ data, c ≠ .add data
    · have hruns := runs_command hs h.1 hnone
      refine List.pairwise_append.mpr ⟨?_, hrest, ?_⟩
      · exact (hruns.pairwise_ne hs.sound).imp fun hne h₁ h₂ => absurd (h₁.trans h₂.symm) hne
      · intro e₁ h₁ e₂ h₂ hid₁ hid₂
        have hanswered := hruns.answered h₁
        exact apart_of_ranSince (hs.command h.1) h.2 hspares.tail (hanswered.timely hs.clock)
          (hid₁ ▸ hanswered.entered) h₂ hid₂
    · obtain ⟨data, rfl⟩ := not_forall_not.mp hnone
      exact hrest

/-- **No task fires too often.** A scheduler that was opened on a data directory is told whatever it
may be told, and all goes well. Checks and runs by hand answer for what they execute, and all
executions of a task with no task added under its id between them are apart. -/
theorem executions_apart {bot : Bot} {notes : List Note} (hclock : bot.world.now.isValid = true)
    (hopened : Agenda.load bot.world.disk = (.ok bot.agenda, notes))
    {before commands : List Command} (hsmooth : Smooth bot (before ++ commands)) {id : String}
    (hspares : Spares id commands) :
    (∀ runner s ids t, check runner s = (.done ids, t) →
      ids = ((Command.check runner).executions s).map fun e => e.task.id) ∧
    (∀ runner name s ran t, runNow runner name s = (.done ran, t) →
      ran = !((Command.runNow runner name).executions s).isEmpty) ∧
    (executions (after bot before) commands).Pairwise fun e₁ e₂ =>
      e₁.task.id = id → e₂.task.id = id → Apart e₁ e₂ := by
  obtain ⟨hbefore, hcommands⟩ := smooth_append.mp hsmooth
  refine ⟨fun _ _ _ _ h => check_answer h, fun _ _ _ _ _ h => runNow_answer h, ?_⟩
  exact pairwise_apart ((ready_of_load hclock hopened).after hbefore) hcommands hspares

end

/-! ## An alarm -/

namespace Alarm

/-- A workflow without nodes. -/
def quiet : Workflow := ⟨"quiet", "quiet", "command", "", true, false, [], [], ⟨[], []⟩⟩

/-- It is walked in a chat that takes every call. -/
def runner : Runner := walker Settings.default fun _ => pure ⟨Loop.willing, none⟩

/-- The second moment of the year 2000. -/
def start : Moment := ⟨2000, 1, 1, 0, 0, 0, 1⟩

/-- An hour later. -/
def hour : Moment := ⟨2000, 1, 1, 1, 0, 0, 1⟩

/-- A microsecond less than 17179869185 seconds later. -/
def short : Moment := ⟨2544, 5, 29, 1, 53, 5, 0⟩

/-- A scheduler opened on an empty data directory. -/
def bot : Bot := ⟨{ Loop.world with now := start }, some [quiet], none, Agenda.empty⟩

/-- An interval task. -/
def data (seconds : Int) : Table Value :=
  [("id", .text "alarm"), ("workflow_id", .text "quiet"), ("target_id", .text "1"),
    ("task_type", .text "interval"), ("interval_seconds", .int seconds)]

/-- The task, before it ran. -/
def task (seconds : Int) : Task :=
  ⟨"alarm", "quiet", "interval", none, some seconds, [], "group", "1", none, true, none, 0, ""⟩

/-- The scheduler with the task added. -/
def set (seconds : Int) : Bot := (Command.add (data seconds)).after bot

/-- The task is run by hand, and looked at again when time has passed. -/
def commands (now : Moment) : List Command :=
  [.runNow (some runner) "alarm", .wait now, .check (some runner)]

theorem orderly_runner : ∀ r, some runner = some r → Orderly r := by
  intro r hr
  obtain rfl := Option.some.inj hr
  exact orderly_walker Settings.default fun _ bot => .refl bot

/-- All goes well where everything can be written. -/
theorem smooth {seconds : Int} {now : Moment}
    (hadd : Task.accept (data seconds) = .ok (task seconds))
    (hbooked : (bot.agenda.book (task seconds)).savesOn bot.world.disk = true)
    (hsaved : ∀ e ∈ executions (set seconds) (commands now), e.saved = true)
    (hclock : (after (set seconds) [.runNow (some runner) "alarm"]).world.now.Reaches now) :
    Smooth bot ([.add (data seconds)] ++ commands now) := by
  obtain ⟨hrun, hrest⟩ := List.forall_mem_append.mp hsaved
  obtain ⟨-, hlast⟩ := List.forall_mem_append.mp hrest
  obtain ⟨hcheck, -⟩ := List.forall_mem_append.mp hlast
  refine ⟨fun t ht => ?_, ⟨orderly_runner, hrun⟩, hclock, ⟨orderly_runner, hcheck⟩, trivial⟩
  obtain rfl := Except.ok.inj (hadd.symm.trans ht)
  exact hbooked

theorem smooth_hour : Smooth bot ([.add (data 3600)] ++ commands hour) :=
  smooth rfl (by decide +kernel) (by decide +kernel) ⟨by decide +kernel, by decide +kernel⟩

end Alarm

theorem executions_apart_hour :
    executions (Alarm.set 3600) (Alarm.commands Alarm.hour) =
      [⟨Alarm.task 3600, none, Alarm.start, true⟩,
        ⟨(Alarm.task 3600).ranAt Alarm.start.isoText, some Alarm.hour, Alarm.hour, true⟩] ∧
    (executions (Alarm.set 3600) (Alarm.commands Alarm.hour)).Pairwise fun e₁ e₂ =>
      e₁.task.id = "alarm" → e₂.task.id = "alarm" → Apart e₁ e₂ := by
  have hspares : Spares "alarm" (Alarm.commands Alarm.hour) := by
    intro data task hmem
    simp [Alarm.commands] at hmem
  exact ⟨by decide +kernel,
    (executions_apart (by decide +kernel) rfl Alarm.smooth_hour hspares).2.2⟩

/-- **An interval can be a microsecond short**: from `2 ^ 34` seconds on, distances in seconds are
rounded to a grid that is coarser than the clock. -/
theorem interval_cut_short :
    Agenda.load Alarm.bot.world.disk = (.ok Alarm.bot.agenda, []) ∧
    Smooth Alarm.bot ([.add (Alarm.data 17179869185)] ++ Alarm.commands Alarm.short) ∧
    ∃ earlier later, executions (Alarm.set 17179869185) (Alarm.commands Alarm.short) =
        [earlier, later] ∧
      earlier.task.id = later.task.id ∧ later.asked = some Alarm.short ∧
      later.task.taskType = "interval" ∧ later.task.intervalSeconds = some 17179869185 ∧
      Alarm.short.epochMicros - earlier.ended.epochMicros < 17179869185 * 1000000 := by
  refine ⟨rfl, ?_, ?_⟩
  · exact Alarm.smooth rfl (by decide +kernel) (by decide +kernel)
      ⟨by decide +kernel, by decide +kernel⟩
  · refine ⟨⟨Alarm.task 17179869185, none, Alarm.start, true⟩,
      ⟨(Alarm.task 17179869185).ranAt Alarm.start.isoText, some Alarm.short, Alarm.short, true⟩,
      by decide +kernel, rfl, rfl, rfl, rfl, by decide⟩

end ChatFlow.Scheduler
