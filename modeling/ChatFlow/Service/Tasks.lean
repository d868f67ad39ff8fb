import ChatFlow.Service.Host

/-!
# Endpoints of tasks

Tasks of the scheduler listed, added, deleted, switched and run. All but the list need the master
password.
-/

namespace ChatFlow.Service.Tasks

/-- **The endpoint `/scheduled/list`**: all tasks in the order of the agenda. -/
def list : Endeavour :=
  Act.see fun bot =>
    Reply.success [("tasks", .list (bot.agenda.tasks.map fun t => t.toValue.plain))]

/-- The entries of a new task: it is switched on unless it is said to be off. -/
def switched (entries : Table Value) : Table Value :=
  entries.insert "enabled" (.bool (match entries.get? "enabled" with
    | some (.bool b) => b
    | _ => true))

/-- A task put on the agenda. -/
def book (entries : Table Value) : Endeavour := do
  match ← (Scheduler.add (switched entries)).attempt with
  | .ok t => return Reply.success [("message", .text ("task [" ++ t.id ++ "] added"))]
  | .error (.refused rule) => return Reply.refusal rule
  | .error (.invalidDocument kind defects) =>
    return Reply.refusal (Fault.invalidDocument kind defects).summary
  | .error f => Act.fail f

/-- **The endpoint `/scheduled/add`**: a task is admitted to the agenda. -/
def add (host : Host) (r : Request) : Endeavour :=
  given r.entries fun entries =>
    host.guarded r (Value.orNull (entries.get? passwordKey)) (book (entries.erase passwordKey))

/-- Something done with the task of an id, by those who know the password. -/
def withTask (host : Host) (r : Request) (act : String → Endeavour) : Endeavour :=
  given (r.read IdRequest.read) fun request =>
    host.guarded r (.text request.password) (request.withId act)

/-- The reply where there is no such task. -/
def unknown : Reply := Reply.refusal "task not found"

/-- **The endpoint `/scheduled/delete`**: a task is taken off the agenda. -/
def delete (host : Host) (r : Request) : Endeavour :=
  withTask host r fun id => do
    if ← Scheduler.remove id then return Reply.success [("message", .text "deleted")]
    else return unknown

/-- **The endpoint `/scheduled/toggle`**: a task is switched on or off. -/
def toggle (host : Host) (r : Request) : Endeavour :=
  withTask host r fun id => do
    match ← Scheduler.toggle id with
    | some enabled => return Reply.success [("enabled", .bool enabled)]
    | none => return unknown

/-- The chat that a task speaks to. -/
def chatOf (platform : Platform) (t : Task) : Act Bot Surface := do
  let conversation ←
    Act.of (Conversation.create (.text t.targetType) (.text t.targetId) .null .null)
  return ⟨platform, some conversation⟩

/-- How the host runs tasks, if it can. -/
def runner? (host : Host) : Option Scheduler.Runner :=
  host.platform.map fun platform => Scheduler.walker host.settings (chatOf platform)

/-- **The endpoint `/scheduled/run`**: a task is run now, whether it is due or not. -/
def run (host : Host) (r : Request) : Endeavour :=
  withTask host r fun id => do
    match ← Scheduler.find? id with
    | none => return unknown
    | some _ =>
      let ran ← Scheduler.runNow (runner? host) id
      return Reply.success [("ran", .bool ran), ("message", .text "executed")]

end ChatFlow.Service.Tasks
