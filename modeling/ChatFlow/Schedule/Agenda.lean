import ChatFlow.Disk.Document
import ChatFlow.Json.Writer
import ChatFlow.Log
import ChatFlow.Schedule.Task

/-!
# The agenda

The tasks of the scheduler under their ids, in the order in which the ids were first booked, and
the round of looking at them that is under way.

* Every booking has a number of its own, by which a task is told from one that took its place under
  the same id.
* `Agenda.change` — a change of a booking is seen in the agenda and by the round alike.
* A round looks at the bookings there were when it began. One that is cancelled meanwhile stays in
  the round; one that is booked meanwhile is left to the next round.
* `Agenda.load`, `Agenda.save` — the file of tasks.
-/

namespace ChatFlow

/-- **A task on the agenda.** -/
structure Booking where
  /-- tells it from every other booking -/
  number : Nat
  /-- the task as it stands -/
  task : Task
  deriving DecidableEq, Repr

/-- **The agenda.** -/
structure Agenda where
  /-- the bookings under the ids of their tasks -/
  bookings : Table Booking
  /-- bookings that the round under way has not looked at yet -/
  round : List Booking
  /-- how many bookings were made -/
  made : Nat
  deriving Repr

namespace Agenda

/-- The agenda without tasks. -/
def empty : Agenda := ⟨[], [], 0⟩

/-- The tasks in order. -/
def tasks (a : Agenda) : List Task := a.bookings.map fun entry => entry.2.task

/-- The booking of an id. -/
def find? (a : Agenda) (id : String) : Option Booking := a.bookings.get? id

/-! ## Changes -/

/-- **A task booked**, in the place of the one of its id or at the end. -/
def book (a : Agenda) (t : Task) : Agenda :=
  { a with bookings := a.bookings.insert t.id ⟨a.made, t⟩, made := a.made + 1 }

/-- **A task cancelled.** -/
def cancel (a : Agenda) (id : String) : Agenda := { a with bookings := a.bookings.erase id }

/-- A booking changed, if it has the number. -/
def changeIf (number : Nat) (f : Task → Task) (b : Booking) : Booking :=
  if b.number = number then { b with task := f b.task } else b

/-- **The task of a booking changed**, wherever the booking is. -/
def change (a : Agenda) (number : Nat) (f : Task → Task) : Agenda :=
  { a with
    bookings := a.bookings.map fun entry => (entry.1, changeIf number f entry.2)
    round := a.round.map (changeIf number f) }

/-! ## Rounds -/

/-- A round begun over all bookings. -/
def beginRound (a : Agenda) : Agenda := { a with round := a.bookings.map Prod.snd }

/-- The next booking of the round. -/
def next (a : Agenda) : Option Booking × Agenda :=
  match a.round with
  | [] => (none, a)
  | b :: rest => (some b, { a with round := rest })

/-! ## The file of tasks -/

/-- The file of tasks. -/
def file : String := "scheduled_tasks.json"

/-- The file they are first written to. -/
def draft : String := "scheduled_tasks.tmp"

/-- The agenda as a document. -/
def toValue (a : Agenda) : Value :=
  .object (a.bookings.map fun entry => (entry.1, entry.2.task.toValue))

/-- The agenda with the entries of a document booked. An entry that is no task is noted and passed
over; one that is not even a map is a fault. -/
def bookEntries (a : Agenda) : List (String × Value) → Except Fault Agenda × List Note
  | [] => (.ok a, [])
  | (id, .object data) :: rest =>
    match Task.read (.object (Table.insert data "id" (.text id))) with
    | .ok t => bookEntries (a.book t) rest
    | .error _ =>
      let (loaded, notes) := bookEntries a rest
      (loaded, .taskSkipped id :: notes)
  | (_, v) :: _ => (.error (.wrongType ("'" ++ v.kindName ++ "' object is not a mapping")), [])

/-- The agenda of a document. -/
def ofValue (v : Value) : Except Fault Agenda × List Note :=
  match v with
  | .object entries => bookEntries empty entries
  | v => if v.present then (.error (.noMember v.kindName "items"), []) else (.ok empty, [])

/-- **The agenda of a data directory**, and what there is to tell about its file. -/
def load (d : Disk) : Except Fault Agenda × List Note :=
  match d.readDocument file with
  | .error f => (.error f, [])
  | .ok .absent => (.ok empty, [])
  | .ok .broken => (.ok empty, [.tasksUnread])
  | .ok (.document v) => ofValue v

/-- **The agenda written.** -/
def save (a : Agenda) (d : Disk) : Except Fault (List Note) × Disk :=
  match Json.write .stored a.toValue with
  | .error f => (.error f, (d.write draft []).getD d)
  | .ok content =>
    match d.replace draft file content with
    | (true, d) => (.ok [], d)
    | (false, d) => (.ok [.tasksUnsaved], d)

theorem find?_book (a : Agenda) (t : Task) (id : String) :
    (a.book t).find? id = if t.id = id then some ⟨a.made, t⟩ else a.find? id :=
  Table.get?_insert a.bookings t.id id ⟨a.made, t⟩

end Agenda

end ChatFlow
