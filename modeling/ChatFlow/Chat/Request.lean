import ChatFlow.Value.Basic

/-!
# Requests to a chat

What a running workflow can ask of the chat it came from, and the calls this becomes on the
platform that carries the chat.
-/

namespace ChatFlow

/-- A file to show: where it is, or its bytes. -/
inductive FileRef where
  /-- an address or a path -/
  | address (s : String)
  /-- the bytes themselves -/
  | content (bytes : List UInt8)
  deriving DecidableEq, Repr

/-- The file as a value. -/
def FileRef.toValue : FileRef → Value
  | .address s => .text s
  | .content bytes => .bytes bytes

/-- The file that a value stands for. -/
def FileRef.ofValue : Value → FileRef
  | .bytes bytes => .content bytes
  | v => .address v.textOrBlank

/-- **Something asked of the chat.** -/
inductive ChatRequest where
  /-- send text -/
  | reply (text : String)
  /-- send an image, with a caption below it or none -/
  | image (file : FileRef) (caption : Option String)
  /-- send a voice message -/
  | voice (file : FileRef)
  /-- send a video -/
  | video (file : FileRef)
  /-- bundle messages into one card -/
  | forward (messages : List String)
  /-- mention the sender and add text -/
  | mention (text : String)
  /-- send a face by its number -/
  | face (id : Int)
  /-- poke a user -/
  | poke (user : String)
  /-- send a card described by a document -/
  | card (data : Value)
  /-- send a file under a name -/
  | file (file : String) (name : Option String)
  /-- send a piece of music -/
  | music (service id : String)
  /-- sign in to the group -/
  | sign
  /-- silence a member for some seconds -/
  | ban (user : String) (seconds : Int)
  /-- remove a member, perhaps for good -/
  | kick (user : String) (forGood : Bool)
  /-- silence everybody, or no longer -/
  | banAll (enable : Bool)
  /-- write the card of a member -/
  | setCard (user card : String)
  /-- make a member administrator, or no longer -/
  | setAdmin (user : String) (enable : Bool)
  /-- publish a notice -/
  | notice (content : String)
  /-- take a message back -/
  | withdraw (message : String)
  /-- any call of the platform -/
  | platform (action : String) (params : Table Value)
  deriving Repr

namespace ChatRequest

/-- Text that may be absent, as a value. -/
def optionalText : Option String → Value
  | some s => .text s
  | none => .null

/-- The name of the request. -/
def name : ChatRequest → String
  | .reply _ => "reply"
  | .image _ _ => "reply_image"
  | .voice _ => "reply_voice"
  | .video _ => "reply_video"
  | .forward _ => "reply_forward"
  | .mention _ => "reply_at"
  | .face _ => "reply_face"
  | .poke _ => "reply_poke"
  | .card _ => "reply_json"
  | .file _ _ => "reply_file"
  | .music _ _ => "reply_music"
  | .sign => "group_sign"
  | .ban _ _ => "group_ban"
  | .kick _ _ => "group_kick"
  | .banAll _ => "group_whole_ban"
  | .setCard _ _ => "group_set_card"
  | .setAdmin _ _ => "group_set_admin"
  | .notice _ => "group_notice"
  | .withdraw _ => "recall_msg"
  | .platform _ _ => "call_api"

/-- Text that may be absent, from a value. -/
def optionalTextOf : Value → Option String
  | .text s => some s
  | _ => none

/-- A number from a value; zero where it is none. -/
def numberOf : Value → Int
  | .number (.int n) => n
  | _ => 0

/-- **The request of a name and arguments**; arguments that are missing count as nothing. -/
def ofName? (name : String) (arguments : List Value) : Option ChatRequest :=
  let arg (i : Nat) : Value := arguments.getD i .null
  let text (i : Nat) : String := (arg i).textOrBlank
  match name with
  | "reply" => some (.reply (text 0))
  | "reply_image" => some (.image (FileRef.ofValue (arg 0)) (optionalTextOf (arg 1)))
  | "reply_voice" => some (.voice (FileRef.ofValue (arg 0)))
  | "reply_video" => some (.video (FileRef.ofValue (arg 0)))
  | "reply_forward" => some (.forward ((arg 0).items.map Value.textOrBlank))
  | "reply_at" => some (.mention (text 0))
  | "reply_face" => some (.face (numberOf (arg 0)))
  | "reply_poke" => some (.poke (text 0))
  | "reply_json" => some (.card (arg 0))
  | "reply_file" => some (.file (text 0) (optionalTextOf (arg 1)))
  | "reply_music" => some (.music (text 0) (text 1))
  | "group_sign" => some .sign
  | "group_ban" => some (.ban (text 0) (numberOf (arg 1)))
  | "group_kick" => some (.kick (text 0) (arg 1).isTrue)
  | "group_whole_ban" => some (.banAll (arg 0).isTrue)
  | "group_set_card" => some (.setCard (text 0) (text 1))
  | "group_set_admin" => some (.setAdmin (text 0) (arg 1).isTrue)
  | "group_notice" => some (.notice (text 0))
  | "recall_msg" => some (.withdraw (text 0))
  | "call_api" => some (.platform (text 0) (arg 1).entries)
  | _ => none

/-- What the request is about, in order. -/
def arguments : ChatRequest → List Value
  | .reply text => [.text text]
  | .image shown caption => [shown.toValue, optionalText caption]
  | .voice heard => [heard.toValue]
  | .video shown => [shown.toValue]
  | .forward messages => [.list (messages.map .text)]
  | .mention text => [.text text]
  | .face id => [.int id]
  | .poke user => [.text user]
  | .card data => [data]
  | .file path label => [.text path, optionalText label]
  | .music service id => [.text service, .text id]
  | .sign => []
  | .ban user seconds => [.text user, .int seconds]
  | .kick user forGood => [.text user, .bool forGood]
  | .banAll enable => [.bool enable]
  | .setCard user shown => [.text user, .text shown]
  | .setAdmin user enable => [.text user, .bool enable]
  | .notice content => [.text content]
  | .withdraw message => [.text message]
  | .platform action params => [.text action, .object params]

end ChatRequest

/-! ## Calls -/

/-- **A call that reached the platform.** -/
structure Call where
  /-- the name of the call -/
  name : String
  /-- what it was given -/
  payload : Value
  deriving Repr

/-- What the platform does with a call. -/
inductive PlatformAnswer where
  /-- it answers -/
  | returns (v : Value)
  /-- it refuses -/
  | fails (message : String)
  /-- it never answers -/
  | hangs
  deriving Repr

/-- **The platform**: what it does with a call, given the calls before it. -/
structure Platform where
  /-- its behaviour -/
  respond : List Call → Call → PlatformAnswer

end ChatFlow
