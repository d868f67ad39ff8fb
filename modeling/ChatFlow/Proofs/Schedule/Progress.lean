import ChatFlow.Proofs.Schedule.Commands

/-!
# What a scheduler does not forget

Once a workflow has run for a task, the agenda says that the task ran last at that time or later,
and it goes on saying so: through later runs, through changes of other tasks, and through the file
the agenda is read from when the scheduler starts anew.

* `RanSince` — whatever stands under an id ran last at or after a moment, by the clock;
* `Proceeds` — **what a step keeps**: a sound agenda, and all that is known about last runs;
* `InRound` — **what holds within a round**: the bookings it has not come to stand on the agenda as
  they were when the round began;
* `Runs` — what a command has executed, seen from its end;
* `Ready` — a scheduler that finds its tasks again when it starts anew.
-/

namespace ChatFlow

/-- **A task that ran last between two moments**, by the clock. -/
def Task.RanBetween (first now : Moment) (t : Task) : Prop :=
  ∃ last : Moment, last.isValid = true ∧ t.lastRun = some last.isoText ∧
    first.epochMicros ≤ last.epochMicros ∧ last.epochMicros ≤ now.epochMicros

namespace Scheduler

/-- **Whatever stands under an id ran last at or after a moment.** -/
def RanSince (id : String) (first : Moment) (bot : Bot) : Prop :=
  ∀ b, bot.agenda.find? id = some b → b.task.RanBetween first bot.world.now

/-- A scheduler with its wits about it. -/
structure Steady (bot : Bot) : Prop where
  /-- the clock shows a moment -/
  clock : bot.world.now.isValid = true
  /-- the agenda is sound -/
  sound : bot.agenda.Sound

/-! ## Steps -/

/-- **What a step keeps.** -/
structure Proceeds (s t : Bot) : Prop where
  /-- time passes -/
  clock : s.world.now.Reaches t.world.now
  /-- a sound agenda stays sound -/
  sound (h : s.agenda.Sound) : t.agenda.Sound
  /-- what ran since a moment still did -/
  ran {id : String} {first : Moment} (h : Steady s) (hran : RanSince id first s) :
    RanSince id first t

section

variable {s t u : Bot}

theorem Proceeds.steady (h : Proceeds s t) (hs : Steady s) : Steady t :=
  ⟨h.clock.valid hs.clock, h.sound hs.sound⟩

theorem Proceeds.refl (s : Bot) : Proceeds s s := ⟨.refl _, id, fun _ => id⟩

theorem Proceeds.trans (h : Proceeds s t) (h' : Proceeds t u) : Proceeds s u where
  clock := h.clock.trans h'.clock
  sound hs := h'.sound (h.sound hs)
  ran hs hran := h'.ran (h.steady hs) (h.ran hs hran)

/-- **A step proceeds** when each task it leaves was there before, and ran last when it had, or ran
now. -/
theorem Proceeds.of_find? (hclock : s.world.now.Reaches t.world.now)
    (hsound : s.agenda.Sound → t.agenda.Sound)
    (hfind : s.agenda.Sound → ∀ {id c}, t.agenda.find? id = some c →
      ∃ b, s.agenda.find? id = some b ∧
        (c.task.lastRun = b.task.lastRun ∨ c.task.lastRun = some t.world.now.isoText)) :
    Proceeds s t where
  clock := hclock
  sound := hsound
  ran := by
    intro id first hs hran c hc
    obtain ⟨b, hb, hlast⟩ := hfind hs.sound hc
    obtain ⟨last, hvalid, hwritten, hfirst, hnow⟩ := hran b hb
    rcases hlast with hsame | hentered
    · exact ⟨last, hvalid, hsame.trans hwritten, hfirst, hnow.trans hclock.forward⟩
    · exact ⟨t.world.now, hclock.valid hs.clock, hentered,
        hfirst.trans (hnow.trans hclock.forward), le_refl _⟩

/-- A step that leaves all bookings as they were. -/
theorem Proceeds.of_bookings (hclock : s.world.now.Reaches t.world.now)
    (hbookings : t.agenda.bookings = s.agenda.bookings) (hmade : t.agenda.made = s.agenda.made) :
    Proceeds s t := by
  have hfind (id : String) : t.agenda.find? id = s.agenda.find? id := by
    rw [Agenda.find?, hbookings, Agenda.find?]
  refine .of_find? hclock (fun hs => ?_) fun _ {id c} hc => ⟨c, (hfind id).symm.trans hc, .inl rfl⟩
  exact {
    keys := hbookings ▸ hs.keys
    named := fun {id b} hb => hs.named (hfind id ▸ hb)
    distinct := fun {id other b c} hb hc => hs.distinct (hfind id ▸ hb) (hfind other ▸ hc)
    counted := fun {id b} hb => hmade ▸ hs.counted (hfind id ▸ hb) }

/-- A task changed proceeds when it keeps its last run, or runs now. -/
theorem Proceeds.of_change {number : Nat} {f : Task → Task}
    (hclock : s.world.now.Reaches t.world.now) (hagenda : t.agenda = s.agenda.change number f)
    (hid : ∀ task, (f task).id = task.id)
    (hlast : ∀ task, (f task).lastRun = task.lastRun ∨
      (f task).lastRun = some t.world.now.isoText) : Proceeds s t := by
  refine .of_find? hclock (fun hs => hagenda ▸ hs.change number hid) fun _ {id c} hc => ?_
  obtain ⟨b, hb, ⟨-, htask⟩ | rfl⟩ := Agenda.exists_of_find?_change (hagenda ▸ hc)
  · exact ⟨b, hb, htask ▸ hlast b.task⟩
  · exact ⟨c, hb, .inl rfl⟩

theorem Proceeds.of_cancel {id : String} (hclock : s.world.now.Reaches t.world.now)
    (hagenda : t.agenda = s.agenda.cancel id) : Proceeds s t := by
  refine .of_find? hclock (fun hs => hagenda ▸ hs.cancel id) fun hs {other c} hc => ?_
  rw [hagenda, Agenda.find?_cancel hs.keys] at hc
  split at hc
  · cases hc
  · exact ⟨c, hc, .inl rfl⟩

/-- Tasks that are read as they were. -/
theorem Proceeds.of_tasks (hclock : s.world.now.Reaches t.world.now) (hsound : t.agenda.Sound)
    (htasks : t.agenda.tasks = s.agenda.tasks) : Proceeds s t := by
  refine .of_find? hclock (fun _ => hsound) fun hs {id c} hc => ?_
  obtain ⟨b, hb, htask⟩ := hs.exists_find? hsound htasks hc
  exact ⟨b, hb, .inl (congrArg Task.lastRun htask).symm⟩

end

/-! ## Executions -/

/-- **What was changed is written**: the file of tasks holds the agenda now, or the tasks and the
file are as they were. -/
def Kept (s t : Bot) : Prop :=
  t.agenda.WrittenOn t.world.disk ∨
    t.agenda.tasks = s.agenda.tasks ∧
      t.world.disk.read Agenda.file = s.world.disk.read Agenda.file

section

variable {s t u : Bot}

theorem Kept.refl (s : Bot) : Kept s s := .inr ⟨rfl, rfl⟩

theorem Kept.trans (h : Kept s t) (h' : Kept t u) (ht : t.agenda.Sound) (hu : u.agenda.Sound) :
    Kept s u := by
  rcases h' with hwritten | ⟨htasks, hfile⟩
  · exact .inl hwritten
  · rcases h with hwritten | ⟨htasks', hfile'⟩
    · exact .inl (ht.writtenOn_congr hu htasks hfile hwritten)
    · exact .inr ⟨htasks.trans htasks', hfile.trans hfile'⟩

/-- **Whether the tasks are found again** when the agenda is read anew. -/
def Restorable (bot : Bot) : Prop :=
  ∃ a notes, Agenda.load bot.world.disk = (.ok a, notes) ∧ a.tasks = bot.agenda.tasks

theorem Kept.restorable (h : Kept s t) (ht : t.agenda.Sound) (hs : Restorable s) :
    Restorable t := by
  rcases h with hwritten | ⟨htasks, hfile⟩
  · obtain ⟨loaded, hload, htasks⟩ := ht.load_of_writtenOn hwritten
    exact ⟨loaded, [], hload, htasks⟩
  · rw [Restorable, Agenda.load_congr hfile, htasks]
    exact hs

end

section

variable {runner : Option Runner} {b : Booking} {bot s : Bot}

theorem Stays.proceeds (h : Stays bot s) : Proceeds bot s :=
  .of_bookings h.clock (congrArg Agenda.bookings h.agenda) (congrArg Agenda.made h.agenda)

theorem Stays.kept (h : Stays bot s) : Kept bot s :=
  .inr ⟨congrArg Agenda.tasks h.agenda, h.file⟩

theorem Writes.proceeds {a : Agenda} (h : Writes a s.world bot) (ha : a = s.agenda) :
    Proceeds s bot := by
  have hagenda := h.agenda.trans ha
  exact .of_bookings (h.clock.symm ▸ .refl _) (by rw [hagenda]) (by rw [hagenda])

theorem Writes.kept {a : Agenda} (h : Writes a s.world bot)
    (hsaved : a.savesOn s.world.disk = true) : Kept t bot :=
  .inl (h.agenda.symm ▸ h.written hsaved)

end

/-- **An execution, seen from a later state**: when it ended, what it was asked for, and that it has
not been forgotten. -/
structure Answered (now : Moment) (t : Bot) (e : Execution) : Prop where
  /-- it ended at a moment -/
  valid : e.ended.isValid = true
  /-- it ended after its command was given -/
  begun : now.epochMicros ≤ e.ended.epochMicros
  /-- a check executes what is due when it looks at the clock -/
  asked {moment : Moment} (h : e.asked = some moment) : moment = now ∧ e.task.isDue now = .ok true
  /-- the run was entered -/
  entered : RanSince e.task.id e.ended t

/-- **What a command has executed**: some of the tasks there were, in their order. -/
structure Runs (now : Moment) (tasks : List Task) (s t : Bot) (es : List Execution) : Prop where
  /-- it is a step -/
  proceeds : Proceeds s t
  /-- the file of tasks keeps up with it, if each execution could be written -/
  kept (h : ∀ e ∈ es, e.saved = true) : Kept s t
  /-- each task runs once at most, as it stood before -/
  tasks : (es.map Execution.task).Sublist tasks
  /-- each execution can be seen from the end -/
  answered {e : Execution} (he : e ∈ es) : Answered now t e

section

variable {now : Moment} {tasks : List Task} {s t u : Bot} {es : List Execution} {e : Execution}

theorem Answered.later (h : Answered now s e) (hs : Steady s) (hst : Proceeds s t) :
    Answered now t e := { h with entered := hst.ran hs h.entered }

/-- A step that executes nothing. -/
theorem Runs.none (h : Proceeds s t) (hkept : Kept s t) : Runs now tasks s t [] :=
  ⟨h, fun _ => hkept, List.nil_sublist tasks, nofun⟩

theorem Runs.one (h : Proceeds s t) (hkept : e.saved = true → Kept s t) (he : Answered now t e) :
    Runs now [e.task] s t [e] where
  proceeds := h
  kept hsaved := hkept (hsaved e List.mem_cons_self)
  tasks := .refl [e.task]
  answered hother := List.mem_singleton.mp hother ▸ he

theorem Runs.append {others : List Task} {later : List Execution} (hs : Steady s)
    (h : Runs now tasks s t es) (h' : Runs now others t u later) :
    Runs now (tasks ++ others) s u (es ++ later) where
  proceeds := h.proceeds.trans h'.proceeds
  kept hsaved := by
    have ht := h.proceeds.steady hs
    have hfirst := h.kept fun e he => hsaved e (List.mem_append_left later he)
    have hthen := h'.kept fun e he => hsaved e (List.mem_append_right es he)
    exact hfirst.trans hthen ht.sound (h'.proceeds.steady ht).sound
  tasks := by
    rw [List.map_append]
    exact h.tasks.append h'.tasks
  answered {other} hother := by
    rcases List.mem_append.mp hother with hearly | hlate
    · exact (h.answered hearly).later (h.proceeds.steady hs) h'.proceeds
    · exact h'.answered hlate

/-- A step before that executes nothing. -/
theorem Runs.behind (h : Runs now tasks t u es) (hs : Steady s) (hst : Proceeds s t)
    (hkept : Kept s t) : Runs now tasks s u es := by
  have hnone : Runs now [] s t [] := .none hst hkept
  exact hnone.append hs h

/-- **The execution of a booking**, if there is any: its task ran last when the workflow had
ended. -/
theorem runs_executionOf {runner : Option Runner} (hr : ∀ r, runner = some r → Orderly r)
    {b : Booking} {bot : Bot} (asked : Option Moment) (hs : Steady bot)
    (hb : bot.agenda.find? b.task.id = some b) (hnow : now.epochMicros ≤ bot.world.now.epochMicros)
    (hasked : ∀ {moment}, asked = some moment → moment = now ∧ b.task.isDue now = .ok true) :
    Runs now [b.task] bot (execute runner b bot).2 (executionOf runner asked b bot) := by
  rw [executionOf]
  rcases hentered : entered? runner b bot with _ | s
  · have hstays := (idle_execute hentered).2 (allows_stays hr)
    exact .none hstays.proceeds hstays.kept
  · -- the run is entered at the clock of `s`; behind that the agenda is only written
    obtain ⟨hagenda, hclock, -⟩ := enters_of_entered? hr hentered
    have hwrites := writes_execute hentered
    have hstep : Proceeds bot s := .of_change hclock hagenda (fun _ => rfl) fun _ => .inr rfl
    have hvalid := hclock.valid hs.clock
    have hran : RanSince b.task.id s.world.now s := by
      intro c hc
      rw [hagenda, Agenda.find?_change, hb, Option.map_some] at hc
      obtain rfl := Option.some.inj hc
      refine ⟨s.world.now, hvalid, ?_, le_refl _, le_refl _⟩
      rw [Agenda.changeIf, if_pos rfl]
      rfl
    have hanswer : Answered now s ⟨b.task, asked, s.world.now, s.agenda.savesOn s.world.disk⟩ :=
      ⟨hvalid, hnow.trans hclock.forward, hasked, hran⟩
    exact .one (hstep.trans (hwrites.proceeds rfl)) hwrites.kept
      (hanswer.later (hstep.steady hs) (hwrites.proceeds rfl))

end

/-! ## Rounds -/

/-- **What holds within a round** that was begun at a moment. -/
structure InRound (now : Moment) (bot : Bot) : Prop where
  /-- all is well -/
  steady : Steady bot
  /-- it began before -/
  begun : now.epochMicros ≤ bot.world.now.epochMicros
  /-- the bookings that are left are on the agenda as they are -/
  found {b : Booking} (hb : b ∈ bot.agenda.round) : bot.agenda.find? b.task.id = some b
  /-- and each has an id of its own -/
  ids : (bot.agenda.round.map fun b => b.task.id).Nodup

section

variable {now : Moment} {bot t : Bot} {b : Booking} {rest : List Booking}

theorem proceeds_atRound (bot : Bot) (rest : List Booking) : Proceeds bot (atRound bot rest) :=
  .of_bookings (.refl _) rfl rfl

theorem kept_atRound (bot : Bot) (rest : List Booking) : Kept bot (atRound bot rest) := .refl bot

theorem proceeds_begun (bot : Bot) : Proceeds bot (begun bot) := .of_bookings (.refl _) rfl rfl

theorem InRound.tracks (h : InRound now bot) : bot.agenda.Tracks := ⟨h.steady.sound, h.found, h.ids⟩

/-- All bookings are left to a round that begins. -/
theorem inRound_begun (h : Steady bot) : InRound bot.world.now (begun bot) where
  steady := (proceeds_begun bot).steady h
  begun := le_refl _
  found := h.sound.tracks_beginRound.found
  ids := h.sound.tracks_beginRound.ids

theorem InRound.tail (h : InRound now bot) (hround : bot.agenda.round = b :: rest) :
    InRound now (atRound bot rest) where
  steady := (proceeds_atRound bot rest).steady h.steady
  begun := h.begun
  found := (h.tracks.tail hround).found
  ids := (h.tracks.tail hround).ids

/-- **The execution of a booking leaves those behind it as they were.** -/
theorem InRound.execute {runner : Option Runner} (hr : ∀ r, runner = some r → Orderly r)
    (h : InRound now bot) (hround : bot.agenda.round = b :: rest) :
    InRound now (execute runner b (atRound bot rest)).2 ∧
      (execute runner b (atRound bot rest)).2.agenda.round = rest := by
  have htail := h.tail hround
  have hb := h.found (hround ▸ List.mem_cons_self)
  have hstep := (runs_executionOf hr none htail.steady hb htail.begun nofun).proceeds
  obtain ⟨htracks, hleft⟩ := tracks_execute (discreet_of_orderly hr) h.tracks hround
  exact ⟨⟨hstep.steady htail.steady, htail.begun.trans hstep.clock.forward, htracks.found,
    htracks.ids⟩, hleft⟩

/-- **A round executes some of the tasks that were left**, each of them due. -/
theorem runs_round {runner : Option Runner} (hr : ∀ r, runner = some r → Orderly r) (left : Nat)
    (h : InRound now bot) :
    Runs now (bot.agenda.round.map Booking.task) bot (checkNext runner now left bot).2
      (roundExecutions runner now left bot) := by
  -- a booking is passed over or executed, and what holds within the round holds behind it
  induction left generalizing bot with
  | zero => exact .none (.refl bot) (.refl bot)
  | succ left ih =>
    rcases hround : bot.agenda.round with _ | ⟨b, rest⟩
    · obtain ⟨hrun, hnone⟩ := checkNext_nil runner (left + 1) now hround
      rw [hrun, hnone]
      exact .none (.refl bot) (.refl bot)
    have hpass := proceeds_atRound bot rest
    rw [List.map_cons]
    rcases hdue : b.task.isDue now with f | due
    · obtain ⟨hrun, hnone⟩ := checkNext_fault runner left hround hdue
      rw [hrun, hnone]
      exact .none hpass (kept_atRound bot rest)
    cases due with
    | false =>
      obtain ⟨hrun, hrest⟩ := checkNext_idle runner left hround hdue
      rw [hrun, hrest]
      have hskip : Runs now [b.task] bot (atRound bot rest) [] :=
        .none hpass (kept_atRound bot rest)
      exact hskip.append h.steady (ih (h.tail hround))
    | true =>
      obtain ⟨hrun, hes⟩ := checkNext_due runner left hround hdue
      have htail := h.tail hround
      have hexecuted : Runs now [b.task] (atRound bot rest) (execute runner b (atRound bot rest)).2
          (executionOf runner (some now) b (atRound bot rest)) :=
        runs_executionOf hr (some now) htail.steady (h.found (hround ▸ List.mem_cons_self))
          htail.begun fun hasked => ⟨(Option.some.inj hasked).symm, hdue⟩
      have hfirst := hexecuted.behind h.steady hpass (kept_atRound bot rest)
      obtain ⟨hleft, hleftRound⟩ := h.execute hr hround
      rw [hrun, hes, Act.run_bind]
      rcases hexecute : execute runner b (atRound bot rest) with ⟨ran | f | _, s⟩ <;>
        rw [hexecute] at hfirst hleft hleftRound
      · have hothers := ih hleft
        rw [hleftRound] at hothers
        dsimp only
        rw [Act.run_bind_return]
        exact hfirst.append h.steady hothers
      · exact hfirst.append h.steady (.none (.refl s) (.refl s))
      · exact hfirst.append h.steady (.none (.refl s) (.refl s))

end

/-! ## Commands -/

/-- **A scheduler that finds its tasks again** when it starts anew. -/
structure Ready (bot : Bot) : Prop extends Steady bot where
  /-- the file of tasks holds the tasks -/
  restorable : ∃ a notes, Agenda.load bot.world.disk = (.ok a, notes) ∧ a.tasks = bot.agenda.tasks

/-- **A command that goes well**: workflows are run in an orderly way, every write of the agenda
succeeds, and the clock is not turned back. -/
def Command.Smooth (bot : Bot) : Command → Prop
  | .check runner => (∀ r, runner = some r → Orderly r) ∧
      ∀ e ∈ (Command.check runner).executions bot, e.saved = true
  | .runNow runner id => (∀ r, runner = some r → Orderly r) ∧
      ∀ e ∈ (Command.runNow runner id).executions bot, e.saved = true
  | .toggle id => ∀ b, bot.agenda.find? id = some b →
      (bot.agenda.change b.number Task.turned).savesOn bot.world.disk = true
  | .remove id => ∀ b, bot.agenda.find? id = some b →
      (bot.agenda.cancel id).savesOn bot.world.disk = true
  | .add data => ∀ t, Task.accept data = .ok t →
      (bot.agenda.book t).savesOn bot.world.disk = true
  | .reopen => True
  | .wait moment => bot.world.now.Reaches moment

section

variable {s t : Bot} {c : Command} {id : String} {first : Moment}

/-- A scheduler that was opened on a data directory finds its tasks again. -/
theorem ready_of_load (hclock : s.world.now.isValid = true) {notes : List Note}
    (h : Agenda.load s.world.disk = (.ok s.agenda, notes)) : Ready s :=
  ⟨⟨hclock, (Agenda.sound_of_load h).1⟩, _, notes, h, rfl⟩

theorem Kept.ready (h : Kept s t) (hs : Ready s) (ht : Steady t) : Ready t :=
  ⟨ht, h.restorable ht.sound hs.restorable⟩

theorem runs_check {runner : Option Runner} (hs : Steady s)
    (hr : ∀ r, runner = some r → Orderly r) :
    Runs s.world.now s.agenda.tasks s ((Command.check runner).after s)
      ((Command.check runner).executions s) := by
  have hround := runs_round hr s.agenda.beginRound.round.length (inRound_begun hs)
  have htasks : (begun s).agenda.round.map Booking.task = s.agenda.tasks := List.map_map
  rw [htasks] at hround
  exact hround.behind hs (proceeds_begun s) (.refl s)

theorem runs_runNow {runner : Option Runner} (hs : Steady s)
    (hr : ∀ r, runner = some r → Orderly r) (id : String) :
    Runs s.world.now s.agenda.tasks s ((Command.runNow runner id).after s)
      ((Command.runNow runner id).executions s) := by
  have hafter : (Command.runNow runner id).after s = (runNow runner id s).2 := rfl
  rw [Command.executions, hafter]
  rcases hb : s.agenda.find? id with _ | b
  · rw [run_runNow_none runner hb]
    exact .none (.refl s) (.refl s)
  · rw [run_runNow runner hb]
    have hid := hs.sound.named hb
    have hrun := runs_executionOf hr none hs (hid.symm ▸ hb) (le_refl _) (by rintro _ ⟨⟩)
    have hmem : b.task ∈ s.agenda.tasks :=
      List.mem_map_of_mem (f := fun entry => entry.2.task) (Table.mem_of_get? hb)
    exact { hrun with tasks := hrun.tasks.trans (List.singleton_sublist.mpr hmem) }

theorem proceeds_toggle (h : (Command.toggle id).Smooth s) :
    Proceeds s (toggle id s).2 ∧ Kept s (toggle id s).2 := by
  rcases hb : s.agenda.find? id with _ | b
  · rw [run_toggle_none hb]
    exact ⟨.refl s, .refl s⟩
  · have hwrites := writes_toggle hb
    refine ⟨?_, hwrites.kept (h b hb)⟩
    exact .of_change (hwrites.clock ▸ .refl _) hwrites.agenda (fun _ => rfl) fun _ => .inl rfl

theorem proceeds_remove (h : (Command.remove id).Smooth s) :
    Proceeds s (remove id s).2 ∧ Kept s (remove id s).2 := by
  rcases hb : s.agenda.find? id with _ | b
  · rw [run_remove_none hb]
    exact ⟨.refl s, .refl s⟩
  · have hwrites := writes_remove hb
    exact ⟨.of_cancel (hwrites.clock ▸ .refl _) hwrites.agenda, hwrites.kept (h b hb)⟩

/-- **A scheduler that starts anew has forgotten nothing.** -/
theorem proceeds_reopen (hs : Ready s) : Proceeds s (reopen s).2 ∧ Kept s (reopen s).2 := by
  obtain ⟨a, notes, hload, htasks⟩ := hs.restorable
  obtain ⟨hagenda, hnow, hdisk⟩ := run_reopen hload
  have hread : (reopen s).2.agenda.tasks = s.agenda.tasks := hagenda.symm ▸ htasks
  refine ⟨.of_tasks (hnow ▸ .refl _) ?_ hread, .inr ⟨hread, ?_⟩⟩
  · exact hagenda.symm ▸ (Agenda.sound_of_load hload).1
  · exact congrArg (Disk.read · Agenda.file) hdisk

/-- **A command that adds nothing executes some of the tasks there are.** -/
theorem runs_command (hs : Ready s) (h : c.Smooth s) (hadd : ∀ data, c ≠ .add data) :
    Runs s.world.now s.agenda.tasks s (c.after s) (c.executions s) := by
  cases c with
  | check runner => exact runs_check hs.toSteady h.1
  | runNow runner id => exact runs_runNow hs.toSteady h.1 id
  | toggle id =>
    obtain ⟨hstep, hkept⟩ := proceeds_toggle h
    exact .none hstep hkept
  | remove id =>
    obtain ⟨hstep, hkept⟩ := proceeds_remove h
    exact .none hstep hkept
  | add data => exact absurd rfl (hadd data)
  | reopen =>
    obtain ⟨hstep, hkept⟩ := proceeds_reopen hs
    exact .none hstep hkept
  | wait moment => exact .none (.of_bookings h rfl rfl) (.refl s)

/-- A command that goes well writes what it executed. -/
theorem saved_of_smooth (h : c.Smooth s) : ∀ e ∈ c.executions s, e.saved = true := by
  cases c with
  | check runner => exact h.2
  | runNow runner id => exact h.2
  | _ => exact fun e he => absurd he List.not_mem_nil

/-- **A scheduler that finds its tasks again goes on doing so.** -/
theorem Ready.command (hs : Ready s) (h : c.Smooth s) : Ready (c.after s) := by
  by_cases hadd : ∀ data, c ≠ .add data
  · have hruns := runs_command hs h hadd
    exact (hruns.kept (saved_of_smooth h)).ready hs (hruns.proceeds.steady hs.toSteady)
  · obtain ⟨data, rfl⟩ := not_forall_not.mp hadd
    have hafter : (Command.add data).after s = (add data s).2 := rfl
    rw [hafter]
    rcases haccept : Task.accept data with f | task
    · rw [run_add_refused s haccept]
      exact hs
    · have hwrites := writes_add s haccept
      refine (hwrites.kept (h task haccept)).ready hs ⟨?_, ?_⟩
      · exact hwrites.clock.symm ▸ hs.clock
      · exact hwrites.agenda.symm ▸ hs.sound.book task

/-- **A command forgets no last run**, unless it adds a task under the same id. -/
theorem RanSince.command (hran : RanSince id first s) (hs : Ready s) (h : c.Smooth s)
    (hadd : ∀ data task, c = .add data → Task.accept data = .ok task → task.id ≠ id) :
    RanSince id first (c.after s) := by
  by_cases hnone : ∀ data, c ≠ .add data
  · exact (runs_command hs h hnone).proceeds.ran hs.toSteady hran
  · obtain ⟨data, rfl⟩ := not_forall_not.mp hnone
    have hafter : (Command.add data).after s = (add data s).2 := rfl
    rw [hafter]
    rcases haccept : Task.accept data with f | task
    · rw [run_add_refused s haccept]
      exact hran
    · obtain ⟨hagenda, hnow, -⟩ := writes_add s haccept
      intro b hb
      rw [hagenda, Agenda.find?_book, if_neg (hadd data task rfl haccept)] at hb
      rw [hnow]
      exact hran b hb

end

end Scheduler

end ChatFlow
