import ChatFlow.Bot
import ChatFlow.Engine.Walk
import ChatFlow.Schedule.Due

/-!
# The scheduler

The scheduler looks at the clock from time to time and runs the workflow of each task that is due.

* `Scheduler.add`, `remove`, `toggle` — the agenda changed and written;
* `Scheduler.execute` — a task run now. It counts as run when its workflow ended without a fault, at
  the time the clock then shows;
* `Scheduler.check` — every task that is due run in order. A workflow may take its time, and the
  agenda may change meanwhile.
-/

namespace ChatFlow.Scheduler

/-- **How the workflow of a task is run.** -/
abbrev Runner := Task → Workflow → Act Bot Unit

/-! ## The agenda -/

/-- The agenda written to disk. -/
def keep : Act Bot Unit := fun bot =>
  match bot.agenda.save bot.world.disk with
  | (.ok notes, disk) =>
    (.done (), { bot with world := { bot.world with disk, log := bot.world.log ++ notes } })
  | (.error f, disk) => (.failed f, { bot with world := { bot.world with disk } })

/-- A change of the agenda. -/
def change (f : Agenda → Agenda) : Act Bot Unit :=
  Act.change fun bot => { bot with agenda := f bot.agenda }

/-- The booking of an id. -/
def find? (id : String) : Act Bot (Option Booking) := Act.see fun bot => bot.agenda.find? id

/-- **A task added**, in the place of one of its id. -/
def add (data : Table Value) : Act Bot Task := do
  let t ← Act.of (Task.accept data)
  change fun a => a.book t
  keep
  return t

/-- **A task removed.** Tells whether there was one. -/
def remove (id : String) : Act Bot Bool := do
  match ← find? id with
  | none => return false
  | some _ =>
    change fun a => a.cancel id
    keep
    return true

/-- **The switch of a task turned.** Answers its new state. -/
def toggle (id : String) : Act Bot (Option Bool) := do
  match ← find? id with
  | none => return none
  | some b =>
    change fun a => a.change b.number Task.turned
    keep
    return some (!b.task.enabled)

/-- **The agenda read anew.** -/
def reopen : Act Bot Unit := fun bot =>
  match Agenda.load bot.world.disk with
  | (.ok agenda, notes) =>
    (.done (), { bot with agenda, world := { bot.world with log := bot.world.log ++ notes } })
  | (.error f, notes) =>
    (.failed f, { bot with world := { bot.world with log := bot.world.log ++ notes } })

/-! ## Running -/

/-- A workflow run for a booking, and the run entered on the agenda. -/
def perform (runner : Runner) (b : Booking) (w : Workflow) : Act Bot Bool := do
  match ← (runner b.task w).attempt with
  | .error _ =>
    Bot.note (.taskFailed b.task.id)
    return false
  | .ok () =>
    let now ← Bot.now
    change fun a => a.change b.number (Task.ranAt now.isoText)
    keep
    return true

/-- **A task run now**, if its workflow takes part and there is a way to run it. Tells whether it
ran. -/
def execute (runner : Option Runner) (b : Booking) : Act Bot Bool := do
  match ← Bot.inArchive (Archive.get b.task.workflowId), runner with
  | some w, some runner => if w.enabled then perform runner b w else return false
  | _, _ => return false

/-- The task of an id run now. -/
def runNow (runner : Option Runner) (id : String) : Act Bot Bool := do
  match ← find? id with
  | none => return false
  | some b => execute runner b

/-- The next booking of the round. -/
def nextBooking : Act Bot (Option Booking) := Act.step fun bot =>
  let (b, agenda) := bot.agenda.next
  (b, { bot with agenda })

/-- Up to so many bookings of the round looked at. Answers the ids of the tasks that ran. -/
def checkNext (runner : Option Runner) (now : Moment) : Nat → Act Bot (List String)
  | 0 => return []
  | left + 1 => do
    match ← nextBooking with
    | none => return []
    | some b =>
      let due ← Act.of (b.task.isDue now)
      let ran ← if due then execute runner b else pure false
      let others ← checkNext runner now left
      return if ran then b.task.id :: others else others

/-- **Every task that is due at a moment run**, in the order of the agenda. Answers the ids of those
that ran. -/
def checkAt (runner : Option Runner) (now : Moment) : Act Bot (List String) := do
  change Agenda.beginRound
  let count ← Act.see fun bot => bot.agenda.round.length
  checkNext runner now count

/-- **Every task that is due by the clock run.** -/
def check (runner : Option Runner) : Act Bot (List String) := do
  let now ← Bot.now
  checkAt runner now

/-- **One turn of the scheduler**: a look at the clock whose failure is only noted. -/
def turn (runner : Option Runner) : Act Bot Unit := do
  match ← (check runner).attempt with
  | .ok _ => return ()
  | .error _ => Bot.note .cycleFailed

/-- **The usual way to run a task**: its workflow walked in the chat it speaks to. -/
def walker (settings : Settings) (chatOf : Task → Act Bot Surface) : Runner := fun t w => do
  let surface ← chatOf t
  let _ ← Bot.inWorld (Walk.runScheduled ⟨⟨t.event, ""⟩, surface, settings⟩ w)

end ChatFlow.Scheduler
