import ChatFlow.Json.Writer
import ChatFlow.Text.Base64
import ChatFlow.World

/-!
# The surface of a chat

A surface carries the requests of a workflow to the platform. An open surface hands them on as they
are. One bound to a conversation turns them into calls that name this conversation and no other:

* messages are lists of segments; bytes travel inside them;
* calls on the group do nothing in a private chat;
* a call the platform refuses is noted and forgotten.
-/

namespace ChatFlow

/-- **A conversation a surface is bound to.** -/
structure Conversation where
  /-- whether it is a group -/
  isGroup : Bool
  /-- the group or the user -/
  target : String
  /-- whom mentions are about -/
  sender : Value
  /-- the bot's account; nothing when unknown -/
  self : Value
  deriving Repr

/-- **Where requests go.** -/
structure Surface where
  /-- who carries them -/
  platform : Platform
  /-- the conversation, unless requests are handed on as they are -/
  conversation : Option Conversation

namespace Conversation

/-- The conversation with a group or a user; without a sender, mentions are about the target. -/
def create (targetType target sender self : Value) : Except Fault Conversation := do
  let target ← target.show?
  let isGroup := match targetType with
    | .text kind => kind = "group"
    | _ => false
  return ⟨isGroup, target, if sender.present then sender else .text target, self⟩

/-- The conversation as the start of a call's parameters. -/
def address (c : Conversation) : Table Value :=
  [(if c.isGroup then "group_id" else "user_id", .text c.target)]

/-! ## Messages -/

/-- A piece of a message. -/
def segment (kind : String) (data : Table Value) : Value :=
  .object [("type", .text kind), ("data", .object data)]

/-- A piece of text. -/
def textSegment (text : String) : Value := segment "text" [("text", .text text)]

/-- The reference of a file; bytes are written out. -/
def fileText : FileRef → String
  | .address s => s
  | .content bytes => "base64://" ++ String.ofList (Base64.encode bytes)

/-- A piece that shows a file. -/
def fileSegment (kind : String) (file : FileRef) : Value :=
  segment kind [("file", .text (fileText file))]

/-- The account that forwarded messages seem to come from. -/
def forwarder (c : Conversation) : Value := if c.self.present then c.self else .text "10000"

/-- A forwarded message. -/
def forwarded (c : Conversation) (text : String) : Value :=
  segment "node" [("user_id", c.forwarder), ("nickname", .text "工作流"),
    ("content", .list [textSegment text])]

/-! ## Calls -/

/-- What becomes of a request. -/
inductive Delivery where
  /-- a message of segments -/
  | message (segments : List Value)
  /-- a card of forwarded messages -/
  | bundle (messages : List Value)
  /-- a call on the group -/
  | onGroup (action : String) (params : Table Value)
  /-- a message taken back -/
  | withdrawal (params : Table Value)
  /-- a call of the platform -/
  | free (action : String) (params : Table Value)
  deriving Repr

/-- A caption that is not blank. -/
def caption : Option String → List Value
  | some text => if text = "" then [] else [textSegment text]
  | none => []

/-- **The delivery of a request.** -/
def delivery (c : Conversation) : ChatRequest → Except Fault Delivery
  | .reply text => .ok (.message [textSegment text])
  | .image shown text => .ok (.message (fileSegment "image" shown :: caption text))
  | .voice heard => .ok (.message [fileSegment "record" heard])
  | .video shown => .ok (.message [fileSegment "video" shown])
  | .forward messages => .ok (.bundle (messages.map c.forwarded))
  | .mention text => .ok (.message [segment "at" [("qq", c.sender)], textSegment (" " ++ text)])
  | .face id => do
    return .message [segment "face" [("id", .text (← Number.intText? id))]]
  | .poke user => .ok (.message [segment "poke" [("qq", .text user)]])
  | .card data => do
    return .message [segment "json" [("data", .text (← Json.write .line data))]]
  | .file path name =>
    let name := name.getD ""
    .ok (.message [segment "file"
      [("file", .text path), ("name", .text (if name = "" then "file" else name))]])
  | .music service id => .ok (.message [segment "music" [("type", .text service), ("id", .text id)]])
  | .sign => .ok (.onGroup "send_group_sign" [])
  | .ban user seconds =>
    .ok (.onGroup "set_group_ban" [("user_id", .text user), ("duration", .int seconds)])
  | .kick user forGood =>
    .ok (.onGroup "set_group_kick" [("user_id", .text user), ("reject_add_request", .bool forGood)])
  | .banAll enable => .ok (.onGroup "set_group_whole_ban" [("enable", .bool enable)])
  | .setCard user shown =>
    .ok (.onGroup "set_group_card" [("user_id", .text user), ("card", .text shown)])
  | .setAdmin user enable =>
    .ok (.onGroup "set_group_admin" [("user_id", .text user), ("enable", .bool enable)])
  | .notice content => .ok (.onGroup "_send_group_notice" [("content", .text content)])
  | .withdraw message => .ok (.withdrawal [("message_id", .text message)])
  | .platform action params => .ok (.free action params)

/-- The call of a delivery and the note if it is refused; none where there is nothing to call. -/
def callOf (c : Conversation) : Delivery → Option (Call × Note)
  | .message segments =>
    let action := if c.isGroup then "send_group_msg" else "send_private_msg"
    some (⟨action, .object (c.address ++ [("message", .list segments)])⟩, .sendFailed action)
  | .bundle messages =>
    let action := if c.isGroup then "send_group_forward_msg" else "send_private_forward_msg"
    some (⟨action, .object (c.address ++ [("messages", .list messages)])⟩, .sendFailed action)
  | .onGroup action params =>
    if c.isGroup then
      some (⟨action, .object (("group_id", .text c.target) :: params)⟩, .groupActionFailed action)
    else none
  | .withdrawal params => some (⟨"delete_msg", .object params⟩, .recallFailed)
  | .free action params => some (⟨action, .object params⟩, .platformCallFailed action)

/-- A call whose refusal is noted and forgotten. -/
def quietly (platform : Platform) (c : Call) (refused : Note) : Act World Value := do
  match ← (World.call platform c).attempt with
  | .ok v => return v
  | .error _ =>
    World.note refused
    return .null

/-- The answer that a delivery hands back: only a call of the platform has one. -/
def answerOf (d : Delivery) (v : Value) : Value :=
  match d with
  | .free _ _ => v
  | _ => .null

/-- **A request within the conversation.** -/
def perform (c : Conversation) (platform : Platform) (r : ChatRequest) : Act World Value := do
  let d ← Act.of (c.delivery r)
  match c.callOf d with
  | none => return .null
  | some (call, refused) =>
    let v ← quietly platform call refused
    return answerOf d v

end Conversation

namespace Surface

/-- **A request to the chat.** -/
def perform (s : Surface) (r : ChatRequest) : Act World Value :=
  match s.conversation with
  | some c => c.perform s.platform r
  | none => World.call s.platform ⟨r.name, .list r.arguments⟩

end Surface

end ChatFlow
