import ChatFlow.Chat.Dispatch
import ChatFlow.Service.Host

/-!
# Messages that come in

A message from a chat is dispatched to the workflows, which answer in the chat it came from.
-/

namespace ChatFlow.Service.Inbound

/-- The chat that a message came from. -/
def chatOf (platform : Platform) (e : Event) : Except Fault Surface := do
  let kind := if e.isGroup then "group" else "private"
  let target := if e.isGroup then e.groupId.getD "" else e.userId
  let conversation ← Conversation.create (.text kind) (.text target) (.text e.userId)
    (Event.optionalText e.selfId)
  return ⟨platform, some conversation⟩

/-- **The endpoint `/messages/inbound`**: a message is handed to the workflows. -/
def receive (host : Host) (r : Request) : Endeavour :=
  given (r.read fun entries => Event.read (.object entries)) fun e =>
    match host.platform with
    | none => return Reply.remark 503 "No bot action caller configured"
    | some platform => do
      let surface ← Act.of (chatOf platform e)
      let handled ← Dispatch.handle host.settings (Dispatch.walker host.settings surface e) e
      return Reply.success [("handled", .bool handled)]

end ChatFlow.Service.Inbound
