import ChatFlow.Proofs.Schedule.Roster
import ChatFlow.Proofs.Schedule.Spacing

/-!
# A scheduler accounts for its tasks

A scheduler that began without tasks has exactly those that its commands have made, in their order,
and finds them again whenever it starts anew. Nothing is asked of the clock here.

* `Command.deeds` — **what a command does to the table of tasks**;
* `Books` — a step that does its deeds and writes what it did;
* `books_execute`, `books_round`, `books_command`, `books_after` — **executions, rounds, commands
  and rows of commands are such steps**, if all writes succeed;
* `accounts_after` — **the table is the one that the deeds have made**, with all that holds of it.
-/

namespace ChatFlow.Scheduler

/-! ## Commands that are written -/

/-- An execution as a deed. -/
def Execution.deed (e : Execution) : Deed := .ran e.task.id e.ended

/-- **What a command does to the table of tasks.** -/
def Command.deeds (bot : Bot) : Command → List Deed
  | .add data => match Task.accept data with
    | .ok t => [.added t]
    | .error _ => []
  | .remove id => [.removed id]
  | .toggle id => [.turned id]
  | c => (c.executions bot).map Execution.deed

/-- **Whether all writes of a command succeed.** -/
def Command.saves (bot : Bot) : Command → Bool
  | .add data => match Task.accept data with
    | .ok t => (bot.agenda.book t).savesOn bot.world.disk
    | .error _ => true
  | .remove id => match bot.agenda.find? id with
    | some _ => (bot.agenda.cancel id).savesOn bot.world.disk
    | none => true
  | .toggle id => match bot.agenda.find? id with
    | some b => (bot.agenda.change b.number Task.turned).savesOn bot.world.disk
    | none => true
  | c => (c.executions bot).all Execution.saved

/-- A command that leaves the agenda and its file to the scheduler. -/
def Command.Discreet : Command → Prop
  | .check runner => Scheduler.Discreet runner
  | .runNow runner _ => Scheduler.Discreet runner
  | _ => True

/-- What a row of commands does to the table of tasks. -/
def deeds (bot : Bot) : List Command → List Deed
  | [] => []
  | c :: rest => c.deeds bot ++ deeds (c.after bot) rest

/-- Whether all writes of a row of commands succeed. -/
def saves (bot : Bot) : List Command → Bool
  | [] => true
  | c :: rest => c.saves bot && saves (c.after bot) rest

/-! ## Steps that do their deeds -/

/-- **A step that does its deeds**, and writes what it did. -/
structure Books (s : Bot) (ds : List Deed) (t : Bot) : Prop where
  /-- the agenda is sound -/
  sound : t.agenda.Sound
  /-- the deeds are done to the tasks -/
  tasks : t.agenda.tasks = ds.foldl Roster.apply s.agenda.tasks
  /-- what was changed is written -/
  kept : Kept s t

section

variable {s t u : Bot} {ds es : List Deed}

theorem Books.refl (hs : s.agenda.Sound) : Books s [] s := ⟨hs, rfl, .refl s⟩

theorem Books.append (h : Books s ds t) (h' : Books t es u) : Books s (ds ++ es) u where
  sound := h'.sound
  tasks := by rw [List.foldl_append, ← h.tasks, h'.tasks]
  kept := h.kept.trans h'.kept h.sound h'.sound

theorem Leaves.books (h : Leaves s t) (hs : s.agenda.Sound) : Books s [] t where
  sound := h.agenda.symm ▸ hs
  tasks := congrArg Agenda.tasks h.agenda
  kept := .inr ⟨congrArg Agenda.tasks h.agenda, h.file⟩

/-- A change of the agenda that is written. -/
theorem Writes.books {a : Agenda} {d : Deed} (h : Writes a s.world t) (ha : a.Sound)
    (htasks : a.tasks = Roster.apply s.agenda.tasks d) (hsaved : a.savesOn s.world.disk = true) :
    Books s [d] t where
  sound := h.agenda.symm ▸ ha
  tasks := h.agenda.symm ▸ htasks
  kept := h.kept hsaved

end

/-! ## Executions and rounds -/

section

variable {runner : Option Runner} {bot : Bot} {b : Booking}

/-- **An execution does its deed**: the task of its booking has run. -/
theorem books_execute (hr : Discreet runner) (hs : bot.agenda.Sound) (asked : Option Moment)
    (hb : bot.agenda.find? b.task.id = some b)
    (hsaved : ∀ e ∈ executionOf runner asked b bot, e.saved = true) :
    Books bot ((executionOf runner asked b bot).map Execution.deed) (execute runner b bot).2 := by
  rw [executionOf] at hsaved ⊢
  rcases hentered : entered? runner b bot with _ | s
  · exact ((idle_execute hentered).2 (allows_leaves hr)).books hs
  · rw [hentered] at hsaved
    -- the run is entered on the agenda as it was, and then written
    obtain ⟨t, hleaves, rfl⟩ := (allows_leaves hr).exists_of_entered? hentered
    have hwrites : Writes (t.agenda.change b.number (Task.ranAt t.world.now.isoText)) t.world
        (execute runner b bot).2 := writes_execute hentered
    have hbooked := hleaves.books hs
    rw [← hleaves.agenda] at hs hb
    exact hbooked.append (hwrites.books (hs.change b.number fun _ => rfl)
      (hs.tasks_change hb _) (hsaved _ List.mem_cons_self))

/-- **An execution in which the task does not run** leaves the agenda and its file alone. -/
theorem leaves_execute {s t : Bot} (hr : Discreet runner)
    (h : execute runner b s = (.done false, t)) : Leaves s t := by
  rcases hentered : entered? runner b s with _ | u
  · have hleaves := (idle_execute hentered).2 (allows_leaves hr)
    rwa [h] at hleaves
  · rw [run_execute hentered, Act.run_bind_return] at h
    rcases hkeep : (keep u).1 with _ | f | _ <;> rw [hkeep] at h <;> cases h

/-- **A round does the deeds of its executions**, one after the other. -/
theorem books_round (hr : Discreet runner) {now : Moment} (left : Nat) (h : bot.agenda.Tracks)
    (hsaved : ∀ e ∈ roundExecutions runner now left bot, e.saved = true) :
    Books bot ((roundExecutions runner now left bot).map Execution.deed)
      (checkNext runner now left bot).2 := by
  -- a booking is passed over or executed, and those behind it are on the agenda as before
  induction left generalizing bot with
  | zero => exact .refl h.sound
  | succ left ih =>
    rcases hround : bot.agenda.round with _ | ⟨b, rest⟩
    · obtain ⟨hrun, hnone⟩ := checkNext_nil runner (left + 1) now hround
      rw [hrun, hnone]
      exact .refl h.sound
    have htail := h.tail hround
    have hpass : Books bot [] (atRound bot rest) := ⟨htail.sound, rfl, kept_atRound bot rest⟩
    rcases hdue : b.task.isDue now with f | due
    · obtain ⟨hrun, hnone⟩ := checkNext_fault runner left hround hdue
      rw [hrun, hnone]
      exact hpass
    cases due with
    | false =>
      obtain ⟨hrun, hrest⟩ := checkNext_idle runner left hround hdue
      rw [hrest] at hsaved ⊢
      rw [hrun]
      exact hpass.append (ih htail hsaved)
    | true =>
      obtain ⟨hrun, hes⟩ := checkNext_due runner left hround hdue
      rw [hes, List.forall_mem_append] at hsaved
      obtain ⟨hfirst, hothers⟩ := hsaved
      have hb := h.found (hround ▸ List.mem_cons_self)
      have hexecuted :=
        hpass.append (books_execute hr hpass.sound (some now) hb hfirst)
      obtain ⟨htracks, -⟩ := tracks_execute hr h hround
      rw [hes, List.map_append, hrun, Act.run_bind]
      rcases hexecute : execute runner b (atRound bot rest) with ⟨ran | f | _, s⟩ <;>
        rw [hexecute] at hexecuted htracks hothers
      · dsimp only
        rw [Act.run_bind_return]
        exact hexecuted.append (ih htracks hothers)
      · exact hexecuted.append (.refl hexecuted.sound)
      · exact hexecuted.append (.refl hexecuted.sound)

end

/-! ## Commands -/

section

variable {bot s t : Bot} {c : Command} {cs : List Command}

/-- **A command does its deeds**, and writes what it did. -/
theorem books_command (hs : s.agenda.Sound) (hfound : Restorable s) (hdiscreet : c.Discreet)
    (hsaves : c.saves s = true) : Books s (c.deeds s) (c.after s) := by
  cases c with
  | check runner =>
    have htracks : (begun s).agenda.Tracks := hs.tracks_beginRound
    have hbegun : Books s [] (begun s) := ⟨htracks.sound, rfl, .refl s⟩
    exact hbegun.append (books_round hdiscreet _ htracks (List.all_eq_true.mp hsaves))
  | runNow runner id =>
    change Books s (((Command.runNow runner id).executions s).map Execution.deed)
      (runNow runner id s).2
    have hsaved : ∀ e ∈ (Command.runNow runner id).executions s, e.saved = true :=
      List.all_eq_true.mp hsaves
    rw [Command.executions] at hsaved ⊢
    rcases hb : s.agenda.find? id with _ | b
    · rw [run_runNow_none runner hb]
      exact .refl hs
    · rw [hb] at hsaved
      rw [run_runNow runner hb]
      exact books_execute hdiscreet hs none ((hs.named hb).symm ▸ hb) hsaved
  | toggle id =>
    change Books s [.turned id] (toggle id s).2
    rw [Command.saves] at hsaves
    rcases hb : s.agenda.find? id with _ | b
    · rw [run_toggle_none hb]
      exact ⟨hs, (Roster.amend_of_ne (hs.id_ne hb)).symm, .refl s⟩
    · rw [hb] at hsaves
      exact (writes_toggle hb).books (hs.change b.number fun _ => rfl)
        (hs.tasks_change hb Task.turned) hsaves
  | remove id =>
    change Books s [.removed id] (remove id s).2
    rw [Command.saves] at hsaves
    rcases hb : s.agenda.find? id with _ | b
    · rw [run_remove_none hb]
      exact ⟨hs, (Roster.drop_of_ne (hs.id_ne hb)).symm, .refl s⟩
    · rw [hb] at hsaves
      exact (writes_remove hb).books (hs.cancel id) (hs.tasks_cancel id) hsaves
  | add data =>
    change Books s (Command.deeds s (.add data)) (add data s).2
    rw [Command.saves] at hsaves
    rw [Command.deeds]
    rcases haccept : Task.accept data with f | task
    · rw [run_add_refused s haccept]
      exact .refl hs
    · rw [haccept] at hsaves
      exact (writes_add s haccept).books (hs.book task) (hs.tasks_book task) hsaves
  | reopen =>
    obtain ⟨a, notes, hload, htasks⟩ := hfound
    obtain ⟨hagenda, -, hdisk⟩ := run_reopen hload
    have hread : (reopen s).2.agenda.tasks = s.agenda.tasks := hagenda.symm ▸ htasks
    refine ⟨?_, hread, .inr ⟨hread, congrArg (Disk.read · Agenda.file) hdisk⟩⟩
    exact hagenda.symm ▸ (Agenda.sound_of_load hload).1
  | wait moment => exact ⟨hs, rfl, .refl s⟩

/-- **A row of commands does its deeds**, and writes what it did. -/
theorem books_after (hs : s.agenda.Sound) (hfound : Restorable s)
    (hdiscreet : ∀ c ∈ cs, c.Discreet) (hsaves : saves s cs = true) :
    Books s (deeds s cs) (after s cs) := by
  induction cs generalizing s with
  | nil => exact .refl hs
  | cons c cs ih =>
    rw [List.forall_mem_cons] at hdiscreet
    rw [saves, Bool.and_eq_true] at hsaves
    have hfirst := books_command hs hfound hdiscreet.1 hsaves.1
    exact hfirst.append
      (ih hfirst.sound (hfirst.kept.restorable hfirst.sound hfound) hdiscreet.2 hsaves.2)

/-- Commands add no task but one that was admitted. -/
theorem sensible_deeds (s : Bot) (c : Command) : ∀ d ∈ c.deeds s, d.Sensible := by
  have hran (es : List Execution) : ∀ d ∈ es.map Execution.deed, d.Sensible := by
    intro d hd
    obtain ⟨e, -, rfl⟩ := List.mem_map.mp hd
    exact trivial
  cases c with
  | add data =>
    rw [Command.deeds]
    rcases haccept : Task.accept data with f | t
    · exact List.forall_mem_nil _
    · exact List.forall_mem_singleton.mpr (Task.sensible_of_accept haccept)
  | remove id => exact List.forall_mem_singleton.mpr trivial
  | toggle id => exact List.forall_mem_singleton.mpr trivial
  | check runner => exact hran _
  | runNow runner id => exact hran _
  | reopen => exact hran _
  | wait moment => exact hran _

theorem sensible_deeds_row (s : Bot) (cs : List Command) : ∀ d ∈ deeds s cs, d.Sensible := by
  induction cs generalizing s with
  | nil => exact List.forall_mem_nil _
  | cons c cs ih => exact List.forall_mem_append.mpr ⟨sensible_deeds s c, ih (c.after s)⟩

/-! ## Accounts -/

/-- An agenda without tasks is found again where there is no file of tasks. -/
theorem restorable_of_missing (hagenda : s.agenda = Agenda.empty)
    (hfile : s.world.disk.read Agenda.file = .missing) : Restorable s := by
  refine ⟨Agenda.empty, [], ?_, congrArg Agenda.tasks hagenda.symm⟩
  rw [Agenda.load, Disk.readDocument, hfile]

/-- **What a scheduler tells of its tasks** when deeds were done. -/
structure Accounts (bot : Bot) (ds : List Deed) : Prop where
  /-- the tasks are those that the deeds have made, in their order -/
  tasks : bot.agenda.tasks = Roster.ofDeeds ds
  /-- each of them stands under its id -/
  keys : bot.agenda.bookings.keys = bot.agenda.tasks.map Task.id
  /-- no id stands there twice -/
  distinct : bot.agenda.bookings.keys.Nodup
  /-- each of them can become due -/
  sensible {t : Task} (ht : t ∈ bot.agenda.tasks) : t.Sensible
  /-- it has counted its runs since it was added last -/
  counted {t : Task} (ht : t ∈ bot.agenda.tasks) : t.runCount = Roster.runsSince t.id ds
  /-- and all are found again when the scheduler starts anew -/
  reopened : ∃ loaded, reopen bot = (.done (), loaded) ∧
    loaded.agenda.tasks = bot.agenda.tasks ∧
      loaded.agenda.bookings.keys = bot.agenda.bookings.keys

/-- A step from no tasks is accounted for by its deeds. -/
theorem Books.accounts {ds : List Deed} (h : Books s ds t) (hagenda : s.agenda = Agenda.empty)
    (hfound : Restorable s) (hsensible : ∀ d ∈ ds, d.Sensible) : Accounts t ds := by
  have htasks : t.agenda.tasks = Roster.ofDeeds ds := by
    rw [h.tasks, hagenda]
    rfl
  have haccounted := Roster.accounted_ofDeeds hsensible
  rw [← htasks] at haccounted
  refine ⟨htasks, h.sound.ids_eq.symm, h.sound.keys, haccounted.sensible, haccounted.counted, ?_⟩
  obtain ⟨a, notes, hload, hsame⟩ := h.kept.restorable h.sound hfound
  refine ⟨_, by rw [reopen, hload], hsame, ?_⟩
  exact (Agenda.sound_of_load hload).1.ids_eq.symm.trans (hsame ▸ h.sound.ids_eq)

/-- **A scheduler accounts for its tasks.** It began without tasks and without a file of them, and
was told whatever it may be told; all that it wrote was written. Then its table is the one that the
deeds of its commands have made. Checks and runs by hand answer for what they execute, and neither a
task that is refused nor an execution in which the task does not run touches the agenda or its
file. -/
theorem accounts_after (hagenda : bot.agenda = Agenda.empty)
    (hfile : bot.world.disk.read Agenda.file = .missing) (hdiscreet : ∀ c ∈ cs, c.Discreet)
    (hsaves : saves bot cs = true) :
    Accounts (after bot cs) (deeds bot cs) ∧
    (∀ runner s ids t, check runner s = (.done ids, t) →
      ids = ((Command.check runner).executions s).map fun e => e.task.id) ∧
    (∀ runner id s ran t, runNow runner id s = (.done ran, t) →
      ran = !((Command.runNow runner id).executions s).isEmpty) ∧
    (∀ data f s, Task.accept data = .error f → add data s = (.failed f, s)) ∧
    ∀ runner b s t, Discreet runner → execute runner b s = (.done false, t) → Leaves s t := by
  have hfound := restorable_of_missing hagenda hfile
  have hsound : bot.agenda.Sound := hagenda.symm ▸ Agenda.sound_empty
  have hbooks := books_after hsound hfound hdiscreet hsaves
  refine ⟨hbooks.accounts hagenda hfound (sensible_deeds_row bot cs), fun _ _ _ _ => check_answer,
    fun _ _ _ _ _ => runNow_answer, fun _ _ s => run_add_refused s, ?_⟩
  intro runner b s t hr hrun
  exact leaves_execute hr hrun

end

namespace Alarm

/-- The alarm is added and goes off. It is set to another interval, of which the first one is
refused, tried by hand and turned off, and the scheduler starts anew. -/
def changes : List Command :=
  [.add (data 3600), .check (some runner), .add (data 59), .add (data 7200),
    .runNow (some runner) "alarm", .toggle "alarm", .reopen]

theorem discreet_changes : ∀ c ∈ changes, c.Discreet := by
  have hr : Discreet (some runner) := discreet_of_orderly orderly_runner
  simp [changes, Command.Discreet, hr]

theorem deeds_changes : deeds bot changes =
    [.added (task 3600), .ran "alarm" start, .added (task 7200), .ran "alarm" start,
      .turned "alarm"] := by decide +kernel

end Alarm

/-- The alarm that was set again has run once. -/
theorem accounts_after_alarm :
    (after Alarm.bot Alarm.changes).agenda.tasks =
      [((Alarm.task 7200).ranAt Alarm.start.isoText).turned] ∧
    Accounts (after Alarm.bot Alarm.changes) (deeds Alarm.bot Alarm.changes) := by
  have hagenda : Alarm.bot.agenda = Agenda.empty := rfl
  have hfile : Alarm.bot.world.disk.read Agenda.file = .missing := rfl
  have hsaves : saves Alarm.bot Alarm.changes = true := by decide +kernel
  obtain ⟨haccounts, -⟩ := accounts_after hagenda hfile Alarm.discreet_changes hsaves
  refine ⟨?_, haccounts⟩
  rw [haccounts.tasks, Alarm.deeds_changes]
  decide +kernel

end ChatFlow.Scheduler
