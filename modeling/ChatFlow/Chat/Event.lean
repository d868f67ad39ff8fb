import ChatFlow.Schema.Check

/-!
# Inbound events

One message as it came in from a chat, read-only.
-/

namespace ChatFlow

/-- **A message from a chat.** -/
structure Event where
  /-- who sent it -/
  userId : String
  /-- the group it came from -/
  groupId : Option String
  /-- `group` or `private` -/
  messageType : String
  /-- the message's own id -/
  messageId : Option String
  /-- the text as sent -/
  rawMessage : String
  /-- the bot's account -/
  selfId : Option String
  /-- what is known of the sender -/
  sender : Table Value
  deriving Repr

namespace Event

/-- **An event read from a document.** -/
def read (v : Value) : Schema.Checked Event := do
  let data ← Schema.record v
  Schema.finish do
    let userId ← Schema.required data "user_id" Schema.text ""
    let groupId ← Schema.optional data "group_id" (Schema.nullable Schema.text) none
    let messageType ← Schema.optional data "message_type" Schema.text "private"
    let messageId ← Schema.optional data "message_id" (Schema.nullable Schema.text) none
    let rawMessage ← Schema.optional data "raw_message" Schema.text ""
    let selfId ← Schema.optional data "self_id" (Schema.nullable Schema.text) none
    let sender ← Schema.optional data "sender" Schema.map []
    return ⟨userId, groupId, messageType, messageId, rawMessage, selfId, sender⟩

/-- Text that may be absent, as a value. -/
def optionalText : Option String → Value
  | some s => .text s
  | none => .null

/-- The event as a document. -/
def toValue (e : Event) : Value :=
  .object [("user_id", .text e.userId), ("group_id", optionalText e.groupId),
    ("message_type", .text e.messageType), ("message_id", optionalText e.messageId),
    ("raw_message", .text e.rawMessage), ("self_id", optionalText e.selfId),
    ("sender", .object e.sender)]

/-- Whether it came from a group that is named. -/
def isGroup (e : Event) : Bool := e.messageType = "group" && (e.groupId.getD "") ≠ ""

end Event

end ChatFlow
