import ChatFlow.Proofs.Acts
import ChatFlow.Proofs.Schedule.Agenda
import ChatFlow.Proofs.Schedule.Due
import ChatFlow.Schedule.Scheduler

/-!
# What is done to a scheduler

A scheduler is looked at from outside: it is given commands, time passes between them and while
workflows run, and tasks are executed. Commands and executions are read off the acts of the
scheduler, one state after the other.

* `entered?` — **the state in which a run is entered** on the agenda, just before it is written;
* `Command.after`, `Command.executions` — what a command leaves behind, and what it executed;
* `check_answer` — **a check reports what it executed**;
* `run_execute`, `idle_execute` — **an execution enters its run, or leads no further than to the end
  of its workflow**;
* `writes_add`, `writes_remove`, `writes_toggle`, `run_reopen` — what the other commands do.
-/

namespace ChatFlow

/-- **Time passes** from one reading of the clock to another. -/
structure Moment.Reaches (a b : Moment) : Prop where
  /-- the clock goes on showing moments -/
  valid : a.isValid = true → b.isValid = true
  /-- it is not turned back -/
  forward : a.epochMicros ≤ b.epochMicros

theorem Moment.Reaches.refl (a : Moment) : a.Reaches a := ⟨id, le_refl _⟩

theorem Moment.Reaches.trans {a b c : Moment} (h : a.Reaches b) (h' : b.Reaches c) : a.Reaches c :=
  ⟨h'.valid ∘ h.valid, h.forward.trans h'.forward⟩

namespace Scheduler

/-- **A step that leaves the agenda alone.** It may take its time. -/
structure Stays (bot after : Bot) : Prop where
  /-- the agenda is not touched -/
  agenda : after.agenda = bot.agenda
  /-- time passes -/
  clock : bot.world.now.Reaches after.world.now
  /-- the file of tasks is not touched -/
  file : after.world.disk.read Agenda.file = bot.world.disk.read Agenda.file

theorem Stays.refl (bot : Bot) : Stays bot bot := ⟨rfl, .refl _, rfl⟩

theorem Stays.trans {s t u : Bot} (h : Stays s t) (h' : Stays t u) : Stays s u :=
  ⟨h'.agenda.trans h.agenda, h.clock.trans h'.clock, h'.file.trans h.file⟩

/-- **A way to run workflows that keeps to them**: the agenda is left alone. -/
def Orderly (runner : Runner) : Prop :=
  ∀ (t : Task) (w : Workflow) (bot : Bot), Stays bot (runner t w bot).2

/-- **A step that leaves the agenda and its file as they were**, whatever becomes of the clock. -/
structure Leaves (bot after : Bot) : Prop where
  /-- the agenda is not touched -/
  agenda : after.agenda = bot.agenda
  /-- the file of tasks is not touched -/
  file : after.world.disk.read Agenda.file = bot.world.disk.read Agenda.file

theorem Leaves.trans {s t u : Bot} (h : Leaves s t) (h' : Leaves t u) : Leaves s u :=
  ⟨h'.agenda.trans h.agenda, h'.file.trans h.file⟩

theorem Stays.leaves {s t : Bot} (h : Stays s t) : Leaves s t := ⟨h.agenda, h.file⟩

/-- **A way to run workflows that leaves the agenda and its file to the scheduler.** -/
def Discreet (runner : Option Runner) : Prop :=
  ∀ r, runner = some r → ∀ (t : Task) (w : Workflow) (bot : Bot), Leaves bot (r t w bot).2

/-- An orderly way to run workflows is discreet. -/
theorem discreet_of_orderly {runner : Option Runner} (hr : ∀ r, runner = some r → Orderly r) :
    Discreet runner := fun r h t w bot => (hr r h t w bot).leaves

/-! ## Commands -/

/-- **A workflow run for a task to its end.** -/
structure Execution where
  /-- the task as it stood when it was looked at -/
  task : Task
  /-- the clock of the check that it was due at; none when it was run by hand -/
  asked : Option Moment
  /-- the clock when the workflow had ended -/
  ended : Moment
  /-- whether the agenda could be written then -/
  saved : Bool
  deriving DecidableEq

/-- **What a scheduler is told.** The way to run workflows is told with each command that runs
any. -/
inductive Command where
  /-- to run what is due -/
  | check (runner : Option Runner)
  /-- to run a task by hand -/
  | runNow (runner : Option Runner) (id : String)
  /-- to turn the switch of a task -/
  | toggle (id : String)
  /-- to remove a task -/
  | remove (id : String)
  /-- to add a task -/
  | add (data : Table Value)
  /-- to start anew on the data directory -/
  | reopen
  /-- to wait until the clock shows a moment -/
  | wait (moment : Moment)

/-- **The state in which the run of a booking is entered**, where its workflow ends without a
fault. -/
def entered? (runner : Option Runner) (b : Booking) (bot : Bot) : Option Bot :=
  match Bot.inArchive (Archive.get b.task.workflowId) bot, runner with
  | (.done (some w), s), some r =>
    if w.enabled then
      match r b.task w s with
      | (.done (), t) =>
        some { t with agenda := t.agenda.change b.number (Task.ranAt t.world.now.isoText) }
      | _ => none
    else none
  | _, _ => none

/-- The execution of a booking, where there is one. -/
def executionOf (runner : Option Runner) (asked : Option Moment) (b : Booking) (bot : Bot) :
    List Execution :=
  match entered? runner b bot with
  | some s => [⟨b.task, asked, s.world.now, s.agenda.savesOn s.world.disk⟩]
  | none => []

/-- **The executions of a round**, as far as it comes. -/
def roundExecutions (runner : Option Runner) (now : Moment) : Nat → Bot → List Execution
  | 0, _ => []
  | left + 1, bot =>
    match nextBooking bot with
    | (.done (some b), bot) =>
      match b.task.isDue now with
      | .error _ => []
      | .ok false => roundExecutions runner now left bot
      | .ok true => executionOf runner (some now) b bot ++
        match execute runner b bot with
        | (.done _, bot) => roundExecutions runner now left bot
        | _ => []
    | _ => []

/-- The bot with a round begun. -/
def begun (bot : Bot) : Bot := { bot with agenda := bot.agenda.beginRound }

namespace Command

/-- **The state behind a command**, however it ended. -/
def after (bot : Bot) : Command → Bot
  | check runner => (Scheduler.check runner bot).2
  | runNow runner id => (Scheduler.runNow runner id bot).2
  | toggle id => (Scheduler.toggle id bot).2
  | remove id => (Scheduler.remove id bot).2
  | add data => (Scheduler.add data bot).2
  | reopen => (Scheduler.reopen bot).2
  | wait moment => { bot with world := { bot.world with now := moment } }

/-- **The executions of a command**, in order. -/
def executions (bot : Bot) : Command → List Execution
  | check runner =>
    roundExecutions runner bot.world.now bot.agenda.beginRound.round.length (begun bot)
  | runNow runner id => match bot.agenda.find? id with
    | none => []
    | some b => executionOf runner none b bot
  | _ => []

end Command

/-- The state behind a row of commands. -/
def after (bot : Bot) : List Command → Bot
  | [] => bot
  | c :: rest => after (c.after bot) rest

/-- **The executions of a row of commands**, in order. -/
def executions (bot : Bot) : List Command → List Execution
  | [] => []
  | c :: rest => c.executions bot ++ executions (c.after bot) rest

/-! ## What was changed is written -/

/-- **A state behind the writing of an agenda**, whether it could be written or not. -/
structure Writes (a : Agenda) (world : World) (after : Bot) : Prop where
  /-- it is the agenda now -/
  agenda : after.agenda = a
  /-- no time passes -/
  clock : after.world.now = world.now
  /-- the file holds it, if it could be written -/
  written (h : a.savesOn world.disk = true) : a.WrittenOn after.world.disk
  /-- the file holds it, or what it held before -/
  file : a.WrittenOn after.world.disk ∨
    after.world.disk.read Agenda.file = world.disk.read Agenda.file

theorem writes_keep (bot : Bot) : Writes bot.agenda bot.world (keep bot).2 := by
  have hdisk : (keep bot).2.world.disk = (bot.agenda.save bot.world.disk).2 := by
    unfold keep
    split <;> next hsave => rw [hsave]
  refine ⟨?_, ?_, fun h => hdisk ▸ Agenda.writtenOn_of_savesOn h,
    hdisk ▸ bot.agenda.writtenOn_or_read_save bot.world.disk⟩
  · unfold keep
    split <;> rfl
  · unfold keep
    split <;> rfl

/-- What follows the writing of an agenda is only the answer. -/
theorem run_keep_return {α : Type} (a : α) (bot : Bot) :
    ((keep >>= fun _ => pure a) bot).2 = (keep bot).2 := by
  rw [Act.run_bind_return]

/-- **A change that is written.** -/
theorem writes_changed {α : Type} (f : Agenda → Agenda) (a : α) (bot : Bot) :
    Writes (f bot.agenda) bot.world ((change f >>= fun _ => keep >>= fun _ => pure a) bot).2 := by
  have hchange : change f bot = (.done (), { bot with agenda := f bot.agenda }) := rfl
  rw [Act.run_bind_done hchange, run_keep_return]
  exact writes_keep { bot with agenda := f bot.agenda }

/-! ## One execution -/

/-- **What an execution leads to**, as far as its run is entered, told by a relation between
states. -/
structure Allows (R : Bot → Bot → Prop) (runner : Option Runner) : Prop where
  /-- it goes on from state to state -/
  trans {s t u : Bot} (h : R s t) (h' : R t u) : R s u
  /-- it allows a workflow to be looked up -/
  lookup (id : String) (bot : Bot) : R bot (Bot.inArchive (Archive.get id) bot).2
  /-- it allows a workflow to be run -/
  runs {r : Runner} (h : runner = some r) (t : Task) (w : Workflow) (bot : Bot) :
    R bot (r t w bot).2
  /-- it allows a note -/
  note (n : Note) (bot : Bot) : R bot (Bot.note n bot).2

section

variable {runner : Option Runner} {b : Booking} {bot s : Bot} {R : Bot → Bot → Prop}

/-- **A run entered** at the clock as it then stands. -/
structure Enters (b : Booking) (bot s : Bot) : Prop where
  /-- the task ran now -/
  agenda : s.agenda = bot.agenda.change b.number (Task.ranAt s.world.now.isoText)
  /-- time passes -/
  clock : bot.world.now.Reaches s.world.now
  /-- the file of tasks is not touched yet -/
  file : s.world.disk.read Agenda.file = bot.world.disk.read Agenda.file

section

variable {r : Runner} {w : Workflow} {t : Bot}

/-- A workflow that ended without a fault is entered as a run, which is then written. -/
theorem run_perform_done (h : r b.task w bot = (.done (), t)) : perform r b w bot =
    (keep >>= fun _ => pure true)
      { t with agenda := t.agenda.change b.number (Task.ranAt t.world.now.isoText) } := by
  have hattempt : (r b.task w).attempt bot = (.done (.ok ()), t) := by rw [Act.attempt, h]
  exact Act.run_bind_done hattempt

theorem run_perform_failed {f : Fault} (h : r b.task w bot = (.failed f, t)) :
    perform r b w bot = (.done false, (Bot.note (.taskFailed b.task.id) t).2) := by
  have hattempt : (r b.task w).attempt bot = (.done (.error f), t) := by rw [Act.attempt, h]
  exact Act.run_bind_done hattempt

theorem run_perform_hung (h : r b.task w bot = (.hung, t)) : perform r b w bot = (.hung, t) := by
  have hattempt : (r b.task w).attempt bot = (.hung, t) := by rw [Act.attempt, h]
  exact Act.run_bind_hung hattempt

end

/-- **A run that is entered** is then written, and the answer is that the task ran. -/
theorem run_execute (h : entered? runner b bot = some s) :
    execute runner b bot = (keep >>= fun _ => pure true) s := by
  unfold entered? at h
  unfold execute
  rw [Act.run_bind]
  split at h
  · next w t r hget =>
    rw [hget]
    dsimp only
    split at h
    · next henabled =>
      split at h
      · next u hrun =>
        obtain rfl := Option.some.inj h
        rw [if_pos henabled]
        exact run_perform_done hrun
      · cases h
    · cases h
  · cases h

/-- A workflow looked up. -/
theorem stays_inArchive (id : String) (bot : Bot) :
    Stays bot (Bot.inArchive (Archive.get id) bot).2 := by
  have hdisk (a : Archive) : (Archive.get id a).2.disk = a.disk := by
    have hload : (Archive.load a).2.disk = a.disk := by
      unfold Archive.load
      split
      · rfl
      · split <;> rfl
    unfold Archive.get
    rwa [Act.run_bind_return]
  exact ⟨rfl, .refl _, congrArg (Disk.read · Agenda.file) (hdisk bot.archive)⟩

theorem allows_stays (hr : ∀ r, runner = some r → Orderly r) : Allows Stays runner where
  trans := Stays.trans
  lookup := stays_inArchive
  runs h t w bot := hr _ h t w bot
  note _ _ := ⟨rfl, .refl _, rfl⟩

theorem allows_leaves (hr : Discreet runner) : Allows Leaves runner where
  trans := Leaves.trans
  lookup id bot := (stays_inArchive id bot).leaves
  runs h t w bot := hr _ h t w bot
  note _ _ := ⟨rfl, rfl⟩

/-- A run that is entered is entered where its workflow had ended. -/
theorem Allows.exists_of_entered? (h : Allows R runner)
    (hentered : entered? runner b bot = some s) :
    ∃ t, R bot t ∧
      s = { t with agenda := t.agenda.change b.number (Task.ranAt t.world.now.isoText) } := by
  have harchive := h.lookup b.task.workflowId bot
  unfold entered? at hentered
  split at hentered
  · next w t r hget =>
    rw [hget] at harchive
    split at hentered
    · split at hentered
      · next u hrun =>
        have hran := h.runs rfl b.task w t
        rw [hrun] at hran
        exact ⟨u, h.trans harchive hran, (Option.some.inj hentered).symm⟩
      · cases hentered
    · cases hentered
  · cases hentered

theorem enters_of_entered? (hr : ∀ r, runner = some r → Orderly r)
    (h : entered? runner b bot = some s) : Enters b bot s := by
  obtain ⟨t, hstays, rfl⟩ := (allows_stays hr).exists_of_entered? h
  exact ⟨by rw [hstays.agenda], hstays.clock, hstays.file⟩

/-- **A run that is not entered**: the task did not run, and the execution leads no further than to
where its workflow had ended. -/
theorem idle_execute (h : entered? runner b bot = none) :
    (execute runner b bot).1 ≠ .done true ∧
      ∀ {R : Bot → Bot → Prop}, Allows R runner → R bot (execute runner b bot).2 := by
  unfold entered? at h
  unfold execute
  rw [Act.run_bind]
  rcases hget : Bot.inArchive (Archive.get b.task.workflowId) bot with ⟨found | f | _, t⟩ <;>
    rw [hget] at h
  -- a relation that allows the archive to be looked up leads to where that ended
  all_goals
    have harchive {R : Bot → Bot → Prop} (hR : Allows R runner) : R bot t := by
      have hlookup := hR.lookup b.task.workflowId bot
      rwa [hget] at hlookup
  · rcases found with _ | w
    · exact ⟨nofun, harchive⟩
    rcases runner with _ | r
    · exact ⟨nofun, harchive⟩
    dsimp only at h ⊢
    split at h
    · next henabled =>
      rw [if_pos henabled]
      have hran {R : Bot → Bot → Prop} (hR : Allows R (some r)) : R bot (r b.task w t).2 :=
        hR.trans (harchive hR) (hR.runs rfl b.task w t)
      rcases hrun : r b.task w t with ⟨_ | f | _, u⟩ <;> rw [hrun] at h hran
      · cases h
      · rw [run_perform_failed hrun]
        exact ⟨nofun, fun hR => hR.trans (hran hR) (hR.note _ u)⟩
      · rw [run_perform_hung hrun]
        exact ⟨nofun, hran⟩
    · next henabled =>
      rw [if_neg henabled]
      exact ⟨nofun, harchive⟩
  · exact ⟨nofun, harchive⟩
  · exact ⟨nofun, harchive⟩

/-- A run that is entered is written. -/
theorem writes_execute (h : entered? runner b bot = some s) :
    Writes s.agenda s.world (execute runner b bot).2 := by
  rw [run_execute h, run_keep_return]
  exact writes_keep s

/-- **An execution changes the agenda only where its run is entered.** -/
theorem agenda_execute (hr : Discreet runner) (b : Booking) (bot : Bot) :
    (execute runner b bot).2.agenda = bot.agenda ∨
      ∃ ran, (execute runner b bot).2.agenda = bot.agenda.change b.number (Task.ranAt ran) := by
  rcases hentered : entered? runner b bot with _ | s
  · exact .inl ((idle_execute hentered).2 (allows_leaves hr)).agenda
  · obtain ⟨t, hleaves, rfl⟩ := (allows_leaves hr).exists_of_entered? hentered
    rw [(writes_execute hentered).agenda, hleaves.agenda]
    exact .inr ⟨_, rfl⟩

/-- Whether a task ran is whether it was executed. -/
theorem ids_executionOf (runner : Option Runner) (asked : Option Moment) (b : Booking) (bot : Bot)
    {ran : Bool} (h : (execute runner b bot).1 = .done ran) :
    (executionOf runner asked b bot).map (fun e => e.task.id) =
      if ran then [b.task.id] else [] := by
  unfold executionOf
  rcases hentered : entered? runner b bot with _ | s
  · cases ran with
    | true => exact absurd h (idle_execute hentered).1
    | false => rfl
  · rw [run_execute hentered, Act.run_bind_return] at h
    rcases hkeep : (keep s).1 with _ | f | _ <;> rw [hkeep] at h
    · obtain rfl := Outcome.done.inj h
      rfl
    · cases h
    · cases h

end

/-! ## Rounds, one booking at a time -/

section

variable (runner : Option Runner) {now : Moment} (left : Nat) {bot : Bot} {b : Booking}
  {rest : List Booking}

/-- The bot with the round gone on to these bookings. -/
def atRound (bot : Bot) (rest : List Booking) : Bot :=
  { bot with agenda := { bot.agenda with round := rest } }

theorem nextBooking_nil (h : bot.agenda.round = []) : nextBooking bot = (.done none, bot) := by
  simp [nextBooking, Act.step, Agenda.next, h]

theorem nextBooking_cons (h : bot.agenda.round = b :: rest) :
    nextBooking bot = (.done (some b), atRound bot rest) := by
  simp [nextBooking, Act.step, Agenda.next, h, atRound]

theorem checkNext_nil (now : Moment) (h : bot.agenda.round = []) :
    checkNext runner now left bot = (.done [], bot) ∧ roundExecutions runner now left bot = [] := by
  cases left with
  | zero => exact ⟨rfl, rfl⟩
  | succ left =>
    rw [checkNext, Act.run_bind_done (nextBooking_nil h), roundExecutions, nextBooking_nil h]
    exact ⟨rfl, rfl⟩

variable (h : bot.agenda.round = b :: rest)

include h

theorem checkNext_fault {f : Fault} (hdue : b.task.isDue now = .error f) :
    checkNext runner now (left + 1) bot = (.failed f, atRound bot rest) ∧
      roundExecutions runner now (left + 1) bot = [] := by
  rw [checkNext, Act.run_bind_done (nextBooking_cons h), roundExecutions, nextBooking_cons h]
  simp only [hdue]
  exact ⟨rfl, trivial⟩

/-- A booking that is not due is passed over. -/
theorem checkNext_idle (hdue : b.task.isDue now = .ok false) :
    checkNext runner now (left + 1) bot = checkNext runner now left (atRound bot rest) ∧
      roundExecutions runner now (left + 1) bot =
        roundExecutions runner now left (atRound bot rest) := by
  rw [checkNext, Act.run_bind_done (nextBooking_cons h), roundExecutions, nextBooking_cons h]
  simp only [hdue]
  exact ⟨congrFun (Act.bind_pure_right (checkNext runner now left)) _, trivial⟩

/-- A booking that is due is executed, and then the round goes on. -/
theorem checkNext_due (hdue : b.task.isDue now = .ok true) :
    checkNext runner now (left + 1) bot = (execute runner b >>= fun ran =>
        checkNext runner now left >>= fun others =>
          pure (if ran then b.task.id :: others else others)) (atRound bot rest) ∧
      roundExecutions runner now (left + 1) bot =
        executionOf runner (some now) b (atRound bot rest) ++
          match execute runner b (atRound bot rest) with
          | (.done _, bot) => roundExecutions runner now left bot
          | _ => [] := by
  rw [checkNext, Act.run_bind_done (nextBooking_cons h), roundExecutions, nextBooking_cons h]
  simp only [hdue]
  exact ⟨rfl, trivial⟩

/-- When the execution has come to its end, the round goes on behind it. -/
theorem checkNext_done (hdue : b.task.isDue now = .ok true) {ran : Bool} {s : Bot}
    (hrun : execute runner b (atRound bot rest) = (.done ran, s)) :
    checkNext runner now (left + 1) bot =
      ((checkNext runner now left s).1.map fun others =>
        if ran then b.task.id :: others else others, (checkNext runner now left s).2) := by
  rw [(checkNext_due runner left h hdue).1, Act.run_bind_done hrun]
  exact Act.run_bind_return (checkNext runner now left) _ s

end

/-- **An execution leaves the bookings behind its own as they were.** -/
theorem tracks_execute {runner : Option Runner} (hr : Discreet runner) {bot : Bot} {b : Booking}
    {rest : List Booking} (h : bot.agenda.Tracks) (hround : bot.agenda.round = b :: rest) :
    (execute runner b (atRound bot rest)).2.agenda.Tracks ∧
      (execute runner b (atRound bot rest)).2.agenda.round = rest := by
  rcases agenda_execute hr b (atRound bot rest) with hsame | ⟨ran, hentered⟩
  · rw [hsame]
    exact ⟨h.tail hround, rfl⟩
  · rw [hentered]
    exact h.change hround fun _ => rfl

/-- **What each execution of a round keeps, the round keeps**, where its executions are of a
kind. -/
theorem round_keeps {runner : Option Runner} {now : Moment} {P : Bot → Prop}
    {kind : Execution → Prop}
    (hpass : ∀ {bot b rest}, bot.agenda.round = b :: rest → P bot → P (atRound bot rest))
    (hexecute : ∀ {bot b rest}, bot.agenda.round = b :: rest → P bot →
      (∀ e ∈ executionOf runner (some now) b (atRound bot rest), kind e) →
        P (execute runner b (atRound bot rest)).2)
    (left : Nat) {bot : Bot} (h : P bot)
    (hkind : ∀ e ∈ roundExecutions runner now left bot, kind e) :
    P (checkNext runner now left bot).2 := by
  induction left generalizing bot with
  | zero => exact h
  | succ left ih =>
    rcases hround : bot.agenda.round with _ | ⟨b, rest⟩
    · rw [(checkNext_nil runner (left + 1) now hround).1]
      exact h
    rcases hdue : b.task.isDue now with f | due
    · rw [(checkNext_fault runner left hround hdue).1]
      exact hpass hround h
    cases due with
    | false =>
      obtain ⟨hrun, hes⟩ := checkNext_idle runner left hround hdue
      rw [hrun]
      exact ih (hpass hround h) (hes ▸ hkind)
    | true =>
      obtain ⟨hrun, hes⟩ := checkNext_due runner left hround hdue
      rw [hes, List.forall_mem_append] at hkind
      have hfirst := hexecute hround h hkind.1
      have hrest := hkind.2
      rw [hrun, Act.run_bind]
      rcases hran : execute runner b (atRound bot rest) with ⟨ran | f | _, s⟩ <;>
        rw [hran] at hfirst hrest
      · dsimp only
        rw [Act.run_bind_return]
        exact ih hfirst hrest
      · exact hfirst
      · exact hfirst

/-- A round answers with what it executed. -/
theorem checkNext_answer {runner : Option Runner} {now : Moment} {left : Nat} {bot after : Bot}
    {ids : List String} (h : checkNext runner now left bot = (.done ids, after)) :
    ids = (roundExecutions runner now left bot).map fun e => e.task.id := by
  induction left generalizing bot after ids with
  | zero =>
    obtain ⟨hids, -⟩ := Prod.mk.inj h
    exact (Outcome.done.inj hids).symm
  | succ left ih =>
    rcases hround : bot.agenda.round with _ | ⟨b, rest⟩
    · obtain ⟨hrun, hnone⟩ := checkNext_nil runner (left + 1) now hround
      rw [hrun] at h
      obtain ⟨hids, -⟩ := Prod.mk.inj h
      rw [hnone]
      exact (Outcome.done.inj hids).symm
    · rcases hdue : b.task.isDue now with f | due
      · rw [(checkNext_fault runner left hround hdue).1] at h
        cases h
      cases due with
      | false =>
        rw [(checkNext_idle runner left hround hdue).1] at h
        rw [(checkNext_idle runner left hround hdue).2]
        exact ih h
      | true =>
        rw [(checkNext_due runner left hround hdue).1, Act.run_bind] at h
        rw [(checkNext_due runner left hround hdue).2]
        -- the head of the answer is told by the execution, its tail by the rest of the round
        have hfirst := @ids_executionOf runner (some now) b (atRound bot rest)
        rcases hrun : execute runner b (atRound bot rest) with ⟨ran | f | _, s⟩ <;>
          rw [hrun] at h hfirst
        · simp only [Act.run_bind_return] at h
          rcases hothers : checkNext runner now left s with ⟨others | f | _, t⟩ <;>
            rw [hothers] at h
          · obtain ⟨hids, -⟩ := Prod.mk.inj h
            obtain rfl := Outcome.done.inj hids
            rw [List.map_append, hfirst rfl, ← ih hothers]
            cases ran with
            | true => rfl
            | false => rfl
          · cases h
          · cases h
        · cases h
        · cases h

/-- **A check reports what it executed.** -/
theorem check_answer {runner : Option Runner} {bot after : Bot} {ids : List String}
    (h : check runner bot = (.done ids, after)) :
    ids = ((Command.check runner).executions bot).map fun e => e.task.id :=
  checkNext_answer h

/-! ## Commands that run nothing -/

section

variable (bot : Bot) {id : String} {b : Booking} {data : Table Value}

theorem writes_add {t : Task} (h : Task.accept data = .ok t) :
    Writes (bot.agenda.book t) bot.world (add data bot).2 := by
  unfold add
  rw [Act.run_bind_done (Act.run_of_ok h bot)]
  exact writes_changed (fun a => a.book t) t bot

theorem run_add_refused {f : Fault} (h : Task.accept data = .error f) :
    add data bot = (.failed f, bot) :=
  Act.run_bind_failed (Act.run_of_error h bot)

variable {bot}

theorem run_find? (id : String) : find? id bot = (.done (bot.agenda.find? id), bot) := rfl

theorem writes_remove (h : bot.agenda.find? id = some b) :
    Writes (bot.agenda.cancel id) bot.world (remove id bot).2 := by
  unfold remove
  rw [Act.run_bind_done (h ▸ run_find? id)]
  exact writes_changed (fun a => a.cancel id) true bot

theorem run_remove_none (h : bot.agenda.find? id = none) :
    remove id bot = (.done false, bot) :=
  Act.run_bind_done (h ▸ run_find? id)

theorem writes_toggle (h : bot.agenda.find? id = some b) :
    Writes (bot.agenda.change b.number Task.turned) bot.world (toggle id bot).2 := by
  unfold toggle
  rw [Act.run_bind_done (h ▸ run_find? id)]
  exact writes_changed (fun a => a.change b.number Task.turned) (some (!b.task.enabled)) bot

theorem run_toggle_none (h : bot.agenda.find? id = none) :
    toggle id bot = (.done none, bot) :=
  Act.run_bind_done (h ▸ run_find? id)

theorem run_runNow (runner : Option Runner) (h : bot.agenda.find? id = some b) :
    runNow runner id bot = execute runner b bot :=
  Act.run_bind_done (h ▸ run_find? id)

theorem run_runNow_none (runner : Option Runner) (h : bot.agenda.find? id = none) :
    runNow runner id bot = (.done false, bot) :=
  Act.run_bind_done (h ▸ run_find? id)

/-- **A task run by hand is answered for** by what was executed. -/
theorem runNow_answer {runner : Option Runner} {t : Bot} {ran : Bool}
    (h : runNow runner id bot = (.done ran, t)) :
    ran = !((Command.runNow runner id).executions bot).isEmpty := by
  rw [Command.executions]
  rcases hb : bot.agenda.find? id with _ | b
  · rw [run_runNow_none runner hb] at h
    obtain ⟨hran, -⟩ := Prod.mk.inj h
    exact (Outcome.done.inj hran).symm
  · rw [run_runNow runner hb] at h
    have hids := congrArg List.isEmpty (ids_executionOf runner none b bot (congrArg Prod.fst h))
    rw [List.isEmpty_map] at hids
    rw [hids]
    cases ran <;> rfl

/-- An agenda that can be read is there when the scheduler starts anew. -/
theorem run_reopen {a : Agenda} {notes : List Note}
    (h : Agenda.load bot.world.disk = (.ok a, notes)) :
    (reopen bot).2.agenda = a ∧ (reopen bot).2.world.now = bot.world.now ∧
      (reopen bot).2.world.disk = bot.world.disk := by
  rw [reopen, h]
  exact ⟨rfl, rfl, rfl⟩

/-- An agenda that cannot be read leaves the scheduler as it was, and a note. -/
theorem run_reopen_failed {f : Fault} {notes : List Note}
    (h : Agenda.load bot.world.disk = (.error f, notes)) : (reopen bot).2 =
      { bot with world := { bot.world with log := bot.world.log ++ notes } } := by
  rw [reopen, h]

end

end Scheduler

end ChatFlow
