import ChatFlow.Service.Host

/-!
# Endpoints of workflows

Workflows listed, saved, deleted and switched.

A workflow that is saved under the id of another one keeps what the request leaves out. Without an
id it gets a new one: the clock in milliseconds, and six characters by chance.
-/

namespace ChatFlow.Service.Workflows

/-- **The endpoint `/list`**: all workflows in stored order. -/
def list : Endeavour := do
  let workflows ← Bot.inArchive Archive.load
  return Reply.success [("workflows", .list (workflows.map Workflow.document))]

/-! ## Saving -/

/-- A number in hexadecimal. -/
def hexText (n : Int) : String :=
  (if n < 0 then "-" else "") ++ String.ofList (Nat.toDigits 16 n.natAbs)

/-- The characters of the second part of an id. -/
def idSigns : List String := ("abcdefghijklmnopqrstuvwxyz0123456789".toList).map String.singleton

/-- So many characters by chance. -/
def chanceText : Nat → Act Bot String
  | 0 => return ""
  | count + 1 => do
    let sign ← Bot.inWorld (World.choose idSigns "")
    return sign ++ (← chanceText count)

/-- How many characters of an id are by chance. -/
def chanceLength : Nat := 6

/-- **The id of a workflow that is saved without one.** -/
def freshId : Act Bot String := do
  let seconds ← Bot.timestamp
  let millis := (seconds.mul (Double.ofInt 1000)).truncate?.getD 0
  let suffix ← chanceText chanceLength
  return "wf_" ++ hexText millis ++ suffix

/-- The stored workflow of an id, if the id is text. -/
def existing? (id : Value) : Act Bot (Option Workflow) :=
  if id.present then do
    let workflows ← Bot.inArchive Archive.load
    return workflows.find? fun w => match id with
      | .text s => w.id = s
      | _ => false
  else return none

/-- The entry of a key if it is anything, or else a default. -/
def givenOr (entries : Table Value) (key : String) (default : Value) : Value :=
  match entries.get? key with
  | some .null | none => default
  | some v => v

/-- **The document of a workflow** as it was sent, over what is stored under its id. -/
def documentOf (id nodes : Value) (entries : Table Value) (stored : Option Workflow) : Value :=
  let kept (view : Workflow → Value) (default : Value) : Value := (stored.map view).getD default
  .object [("id", id),
    ("name", presentOr entries "name" (kept (fun w => .text w.name) (.text "untitled"))),
    ("trigger_type",
      presentOr entries "trigger_type" (kept (fun w => .text w.triggerType) (.text "exact"))),
    ("trigger_content",
      givenOr entries "trigger_content" (kept (fun w => .text w.triggerContent) (.text ""))),
    ("enabled", givenOr entries "enabled" (kept (fun w => .bool w.enabled) (.bool true))),
    ("stop_propagation", .bool (Value.orNull (entries.get? "stop_propagation")).present),
    ("nodes", nodes),
    ("connections", presentOr entries "connections" (.list []))]

/-- A document loaded and stored. -/
def store (document : Value) : Endeavour :=
  match Workflow.load document with
  | .error f => return Reply.refusal f.summary
  | .ok w => do
    if ← Bot.inArchive (Archive.upsert w) then
      return Reply.success [("data", .object [("id", .text w.id)])]
    else return Reply.refusal "save failed"

/-- A workflow with nodes saved. -/
def saveNodes (entries : Table Value) (nodes : Value) : Endeavour := do
  let given := Value.orNull (entries.get? "id")
  let stored ← existing? given
  let id ← if given.present then pure given else do pure (Value.text (← freshId))
  store (documentOf id nodes entries stored)

/-- **The endpoint `/save`**: a workflow is stored under its id, by those who know the password where it
fires on any text. -/
def save (host : Host) (r : Request) : Endeavour :=
  given r.entries fun entries => do
    let nodes := Value.orNull (entries.get? "nodes")
    let act : Endeavour := match nodes with
      | .null => return Reply.refusal "missing nodes"
      | nodes => if nodes.present then saveNodes entries nodes else return Reply.refusal "no nodes"
    if ← Act.of (Gate.needsMaster (.object entries)) then
      host.guarded r (Value.orNull (entries.get? passwordKey)) act
    else act

/-! ## Deleting and switching -/

/-- **The endpoint `/delete`**: every workflow of an id is deleted. -/
def delete (r : Request) : Endeavour :=
  given (r.read IdRequest.read) fun request => request.withId fun id => do
    let deleted ← Bot.inArchive (Archive.delete id)
    return Reply.entries [("success", .bool deleted), ("message", .text "deleted")]

/-- **The endpoint `/toggle`**: a workflow is switched on or off. -/
def toggle (r : Request) : Endeavour :=
  given (r.read IdRequest.read) fun request => request.withId fun id => do
    let enabled ← Bot.inArchive (Archive.toggle id)
    return Reply.entries [("success", .bool enabled.isSome),
      ("enabled", (enabled.map Value.bool).getD .null), ("message", .text "updated")]

end ChatFlow.Service.Workflows
