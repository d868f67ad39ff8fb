import ChatFlow.Engine.Trigger
import ChatFlow.Settings.Basic
import ChatFlow.Value.Display

/-!
# The gate

Workflows that fire on any text, and everything that the clock runs, are changed only by those who
know the master password.

* `Gate.needsMaster` — whether a workflow as it was sent is of this kind;
* `Gate.opens` — whether a password opens the gate. Where no password is set, it stands open.
-/

namespace ChatFlow.Gate

/-- **Whether a password opens the gate.** -/
def opens (settings : Settings) (password : Value) : Bool :=
  settings.masterPassword = "" ||
    match password with
    | .text s => s = settings.masterPassword
    | _ => false

theorem opens_of_no_password {settings : Settings} (h : settings.masterPassword = "")
    (password : Value) : opens settings password = true := by
  simp [opens, h]

theorem opens_text (settings : Settings) (s : String) :
    opens settings (.text s) = (settings.masterPassword = "" || s = settings.masterPassword) := rfl

/-- Whether a kind of trigger fires on any text. -/
def isMasterKind (v : Value) : Bool :=
  match v with
  | .text s => Trigger.masterKinds.contains s
  | _ => false

/-- Whether a node is a trigger. -/
def isTrigger (node : Value) : Bool :=
  match node.get "type" with
  | .text s => s = "trigger"
  | _ => false

/-- Whether the data of a trigger names a kind that fires on any text. -/
def dataNeeds (data : Value) : Except Fault Bool :=
  match data with
  | .object entries => do
    let kind := Value.orNull (Table.get? entries "trigger_type")
    return Trigger.masterKinds.contains (← if kind.present then kind.show? else pure "")
  | v => if v.present then .error (.noMember v.kindName "get") else .ok false

/-- Whether one of the nodes fires on any text. -/
def anyNeeds : List Value → Except Fault Bool
  | [] => .ok false
  | node :: rest => do
    let needs ← if isTrigger node then dataNeeds (node.get "data") else pure false
    if needs then return true else anyNeeds rest

/-- The nodes of a workflow as it was sent, by position or under names. -/
def nodesOf (nodes : Value) : Except Fault (List Value) :=
  match nodes with
  | .object entries => .ok (entries.map Prod.snd)
  | .list items | .tuple items => .ok items
  | .text _ | .bytes _ => .ok []
  | v =>
    if v.present then .error (.wrongType ("'" ++ v.kindName ++ "' object is not iterable"))
    else .ok []

/-- **Whether a workflow needs the password**, as it was sent: it, or one of its triggers, is of a kind
that fires on any text. -/
def needsMaster (workflow : Value) : Except Fault Bool :=
  match workflow with
  | .object entries => do
    if isMasterKind (Value.orNull (Table.get? entries "trigger_type")) then return true
    anyNeeds (← nodesOf (Value.orNull (Table.get? entries "nodes")))
  | v => .error (.noMember v.kindName "get")

end ChatFlow.Gate
