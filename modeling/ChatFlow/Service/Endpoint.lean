import ChatFlow.Service.Inbound
import ChatFlow.Service.Preview
import ChatFlow.Service.Tasks
import ChatFlow.Service.Workflows

/-!
# Endpoints

What the service can be asked for, and how a request finds its endpoint.

* `Endpoint.find` — the endpoint of a method and a path, or why there is none;
* `Host.answer` — the reply to a request. A failure of the endpoint is a reply too.
-/

namespace ChatFlow.Service

/-- **What the service can be asked for.** -/
inductive Endpoint where
  | health
  | config
  | verifyPassword
  | listWorkflows
  | saveWorkflow
  | deleteWorkflow
  | toggleWorkflow
  | previewCall
  | listTasks
  | addTask
  | deleteTask
  | toggleTask
  | runTask
  | receiveMessage
  deriving DecidableEq, Repr

namespace Endpoint

/-- All endpoints. -/
def all : List Endpoint :=
  [.health, .config, .verifyPassword, .listWorkflows, .saveWorkflow, .deleteWorkflow,
    .toggleWorkflow, .previewCall, .listTasks, .addTask, .deleteTask, .toggleTask, .runTask,
    .receiveMessage]

/-- The path of an endpoint. -/
def path : Endpoint → String
  | .health => "/health"
  | .config => "/config"
  | .verifyPassword => "/verify_master"
  | .listWorkflows => "/list"
  | .saveWorkflow => "/save"
  | .deleteWorkflow => "/delete"
  | .toggleWorkflow => "/toggle"
  | .previewCall => "/test_api"
  | .listTasks => "/scheduled/list"
  | .addTask => "/scheduled/add"
  | .deleteTask => "/scheduled/delete"
  | .toggleTask => "/scheduled/toggle"
  | .runTask => "/scheduled/run"
  | .receiveMessage => "/messages/inbound"

/-- The method of an endpoint: those that only look are got, the others are posted to. -/
def method : Endpoint → String
  | .health | .config | .listWorkflows | .listTasks => "GET"
  | _ => "POST"

theorem mem_all (e : Endpoint) : e ∈ all := by
  cases e <;> decide

theorem path_injective {a b : Endpoint} (h : a.path = b.path) : a = b := by
  cases a <;> cases b <;> first | rfl | exact absurd h (by decide)

/-- The endpoint of a path. -/
def ofPath? (path : String) : Option Endpoint := all.find? fun e => e.path = path

/-- A path without slashes at its end. -/
def withoutSlashes (path : String) : String :=
  String.ofList (path.toList.reverse.dropWhile (· = '/')).reverse

/-- The reply to a request without endpoint: a path with slashes at its end is sent elsewhere. -/
def missing (path : String) : Reply :=
  if path.endsWith "/" && (ofPath? (withoutSlashes path)).isSome then .plain 307 ""
  else Reply.remark 404 "Not Found"

/-- The reply to a method that an endpoint does not have. -/
def wrongMethod (method : String) : Reply :=
  if method = "HEAD" then .plain 405 "" else Reply.remark 405 "Method Not Allowed"

/-- **The endpoint of a method and a path**, or the reply to a request that has none. -/
def find (method path : String) : Except Reply Endpoint :=
  match ofPath? path with
  | some e => if e.method = method then .ok e else .error (wrongMethod method)
  | none => .error (missing path)

end Endpoint

/-! ## Looking and passwords -/

/-- **The endpoint `/health`**: the time, and how many workflows and tasks there are. -/
def health (host : Host) : Endeavour := do
  let now ← Bot.now
  let workflows ← Bot.inArchive Archive.load
  let tasks ← Act.see fun bot => bot.agenda.tasks.length
  return Reply.entries [("status", .text "healthy"), ("timestamp", .text now.isoText),
    ("workflow_enabled", host.settings.enableWorkflow), ("workflows", .int workflows.length),
    ("scheduled_tasks", .int tasks)]

/-- **The endpoint `/config`**: what an editor has to know of the password. -/
def config (host : Host) : Endeavour :=
  return Reply.success [("require_master", .bool (host.settings.masterPassword ≠ "")),
    ("master_only_triggers", .list (Trigger.masterKinds.map .text))]

/-- The password of a body. -/
def readPassword (entries : Table Value) : Schema.Checked String :=
  Schema.finish (Schema.optional entries "password" Schema.plainText "")

/-- **The endpoint `/verify_master`**: a password is tried. -/
def verifyPassword (host : Host) (r : Request) : Endeavour :=
  given (r.read readPassword) fun password =>
    if Gate.opens host.settings (.text password) then
      return Reply.success [("message", .text "verified")]
    else return Reply.refusal "wrong password"

/-! ## Answers -/

/-- **What an endpoint does with a request.** -/
def Endpoint.serve (host : Host) (r : Request) : Endpoint → Endeavour
  | .health => Service.health host
  | .config => Service.config host
  | .verifyPassword => Service.verifyPassword host r
  | .listWorkflows => Workflows.list
  | .saveWorkflow => Workflows.save host r
  | .deleteWorkflow => Workflows.delete r
  | .toggleWorkflow => Workflows.toggle r
  | .previewCall => Preview.run host r
  | .listTasks => Tasks.list
  | .addTask => Tasks.add host r
  | .deleteTask => Tasks.delete host r
  | .toggleTask => Tasks.toggle host r
  | .runTask => Tasks.run host r
  | .receiveMessage => Inbound.receive host r

/-- **The reply to a request.** An endpoint that fails makes a broken reply. -/
def Host.answer (host : Host) (r : Request) : Endeavour := do
  match Endpoint.find r.method r.target.path with
  | .error reply => return reply
  | .ok e =>
    match ← (e.serve host r).attempt with
    | .ok reply => return reply.settled
    | .error _ => return Reply.broken

end ChatFlow.Service
