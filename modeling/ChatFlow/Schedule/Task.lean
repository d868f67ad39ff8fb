import ChatFlow.Chat.Event

/-!
# Scheduled tasks

A task runs a workflow at a time of day or after an interval.

* `Task.accept` — what may be put on the schedule, and why something else may not;
* `Task.event` — the message that stands for the clock when the workflow runs.
-/

namespace ChatFlow

open Schema

/-- **A workflow run by the clock.** -/
structure Task where
  /-- its name in the schedule -/
  id : String
  /-- the workflow to run -/
  workflowId : String
  /-- `daily`, `interval` or `cron` -/
  taskType : String
  /-- hour and minute of a daily task -/
  dailyTime : Option String
  /-- seconds between two runs of an interval task -/
  intervalSeconds : Option Int
  /-- days of a daily task, Sunday being 0; none stands for all -/
  weekdays : List Int
  /-- `group` or `private` -/
  targetType : String
  /-- the chat it speaks to -/
  targetId : String
  /-- whose stored values it sees -/
  triggerUserId : Option String
  /-- whether the clock starts it -/
  enabled : Bool
  /-- when it ran last -/
  lastRun : Option String
  /-- how often it ran -/
  runCount : Int
  /-- a note for people -/
  description : String
  deriving DecidableEq, Repr

namespace Task

/-- **A task read from a document.** -/
def read (v : Value) : Checked Task := do
  let data ← record v
  finish do
    let id ← required data "id" text ""
    let workflowId ← required data "workflow_id" text ""
    let taskType ← optional data "task_type" text "daily"
    let dailyTime ← optional data "daily_time" (nullable text) none
    let intervalSeconds ← optional data "interval_seconds" (nullable integer) none
    let weekdays ← optional data "weekdays" (items integer) []
    let targetType ← optional data "target_type" text "group"
    let targetId ← required data "target_id" text ""
    let triggerUserId ← optional data "trigger_user_id" (nullable text) none
    let enabled ← optional data "enabled" flag true
    let lastRun ← optional data "last_run" (nullable text) none
    let runCount ← optional data "run_count" integer 0
    let description ← optional data "description" text ""
    return ⟨id, workflowId, taskType, dailyTime, intervalSeconds, weekdays, targetType, targetId,
      triggerUserId, enabled, lastRun, runCount, description⟩

/-- The task as a document. -/
def toTable (t : Task) : Table Value :=
  [("id", .text t.id), ("workflow_id", .text t.workflowId), ("task_type", .text t.taskType),
    ("daily_time", Event.optionalText t.dailyTime),
    ("interval_seconds", Value.orNull (t.intervalSeconds.map Value.int)),
    ("weekdays", .list (t.weekdays.map Value.int)), ("target_type", .text t.targetType),
    ("target_id", .text t.targetId), ("trigger_user_id", Event.optionalText t.triggerUserId),
    ("enabled", .bool t.enabled), ("last_run", Event.optionalText t.lastRun),
    ("run_count", .int t.runCount), ("description", .text t.description)]

/-- The task as a value. -/
def toValue (t : Task) : Value := .object t.toTable

/-! ## Admission -/

/-- The shortest interval in seconds. -/
def shortestInterval : Int := 60

/-- Entries that a task cannot do without. -/
def essentials : List String := ["id", "workflow_id", "target_id"]

/-- Whether an entry says nothing. -/
def lacks (data : Table Value) (key : String) : Bool := !(Value.orNull (data.get? key)).present

/-- The rule a task breaks that could never become due. -/
def idleRule? (t : Task) : Option String :=
  if t.taskType = "daily" && t.dailyTime.getD "" = "" then some "daily tasks need daily_time"
  else if t.taskType = "interval" && decide (t.intervalSeconds.getD 0 < shortestInterval) then
    some ("interval_seconds must be >= " ++ intText shortestInterval)
  else none

/-- **A task admitted to the schedule**: read from its entries, as one that has not run yet. -/
def accept (data : Table Value) : Except Fault Task := do
  if essentials.any (lacks data) then
    throw (.refused "id, workflow_id and target_id are required")
  let t ← (read (.object (data.insert "run_count" (.int 0)))).mapError (.invalidDocument .task)
  match idleRule? t with
  | some rule => throw (.refused rule)
  | none => return t

/-! ## Running -/

/-- The text of a message that stands for the clock. -/
def clockText : String := "__scheduled__"

/-- **The event that a task makes up**: a message from the clock in the chat it speaks to. -/
def event (t : Task) : Event where
  userId := match t.triggerUserId with
    | some user => if user = "" then "scheduled" else user
    | none => "scheduled"
  groupId := if t.targetType = "group" then some t.targetId else none
  messageType := t.targetType
  messageId := none
  rawMessage := clockText
  selfId := none
  sender := []

/-- The task after a run that ended at a moment. -/
def ranAt (now : String) (t : Task) : Task :=
  { t with lastRun := some now, runCount := t.runCount + 1 }

/-- The task with its switch turned. -/
def turned (t : Task) : Task := { t with enabled := !t.enabled }

end Task

end ChatFlow
