import ChatFlow.Schedule.Scheduler
import ChatFlow.Service.Gate
import ChatFlow.Service.Request

/-!
# The host of the service

What an endpoint works with besides the bot, and how endpoints deal with requests and passwords.
-/

namespace ChatFlow.Service

/-- **The host.** -/
structure Host where
  /-- the settings -/
  settings : Settings
  /-- who carries calls to the chat, if there is anybody -/
  platform : Option Platform

/-- **What an endpoint does.** -/
abbrev Endeavour := Act Bot Reply

/-- Something done with what a request holds; the reply to one that does not hold it. -/
def given {α : Type} (found : Except Reply α) (act : α → Endeavour) : Endeavour :=
  match found with
  | .ok a => act a
  | .error reply => return reply

/-- The entry of a key if it says something, or else a default. -/
def presentOr (entries : Table Value) (key : String) (default : Value) : Value :=
  let v := Value.orNull (entries.get? key)
  if v.present then v else default

/-- The name of the password in bodies and queries. -/
def passwordKey : String := "master_password"

/-- The password of a query. -/
def Request.password (r : Request) : Value :=
  match r.target.query.get? passwordKey with
  | some s => .text s
  | none => .null

/-- What needs the master password; the one in the body comes before the one in the query. -/
def Host.guarded (host : Host) (r : Request) (body : Value) (act : Endeavour) : Endeavour :=
  if Gate.opens host.settings (if body.present then body else r.password) then act
  else return Reply.locked

/-! ## Requests about something with an id -/

/-- **An id and a password.** -/
structure IdRequest where
  /-- the id -/
  id : String
  /-- the password -/
  password : String
  deriving Repr

/-- An id and a password read. -/
def IdRequest.read (entries : Table Value) : Schema.Checked IdRequest :=
  Schema.finish do
    let id ← Schema.optional entries "id" Schema.text ""
    let password ← Schema.optional entries passwordKey Schema.text ""
    return ⟨id, password⟩

/-- Something done with an id that is there. -/
def IdRequest.withId (r : IdRequest) (act : String → Endeavour) : Endeavour :=
  if r.id = "" then return Reply.refusal "missing id" else act r.id

end ChatFlow.Service
