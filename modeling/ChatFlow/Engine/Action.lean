import ChatFlow.Engine.Compute
import ChatFlow.Engine.Storage
import ChatFlow.Engine.WebCall
import ChatFlow.Workflow.Document

/-!
# What nodes do

Each kind of node has its effect. A node may fail; moderation and platform calls do not, for their
failures are noted and forgotten.
-/

namespace ChatFlow

/-- What an action does. -/
inductive ActionKind where
  /-- send text, one of several at random -/
  | text
  /-- send an image -/
  | image
  /-- send a voice message -/
  | voice
  /-- send a video -/
  | video
  /-- mention the sender -/
  | mention
  /-- send a face -/
  | face
  /-- poke a user -/
  | poke
  /-- send a card -/
  | card
  /-- send a file -/
  | file
  /-- send a piece of music -/
  | music
  /-- bundle messages -/
  | forward
  /-- call the web -/
  | web
  /-- sign in to the group -/
  | sign
  /-- silence a member -/
  | ban
  /-- remove a member -/
  | kick
  /-- silence everybody -/
  | banAll
  /-- write the card of a member -/
  | setCard
  /-- make a member administrator -/
  | setAdmin
  /-- publish a notice -/
  | notice
  /-- take a message back -/
  | withdraw
  /-- call the platform -/
  | platform
  deriving DecidableEq, Repr

/-- The action that `action_type` names. -/
def ActionKind.ofName? : String → Option ActionKind
  | "reply_text" => some .text
  | "reply_image" => some .image
  | "reply_voice" => some .voice
  | "reply_video" => some .video
  | "reply_at" => some .mention
  | "reply_face" => some .face
  | "reply_poke" => some .poke
  | "reply_json" => some .card
  | "reply_file" => some .file
  | "reply_music" => some .music
  | "reply_forward" => some .forward
  | "custom_api" => some .web
  | "group_sign" => some .sign
  | "group_ban" => some .ban
  | "group_kick" => some .kick
  | "group_whole_ban" => some .banAll
  | "group_set_card" => some .setCard
  | "group_set_admin" => some .setAdmin
  | "group_notice" => some .notice
  | "recall_msg" => some .withdraw
  | "call_api" => some .platform
  | _ => none

namespace Action

/-- **A request whose failure is noted and forgotten**; its answer is nothing then. -/
def quietly (scene : Scene) (p : ActionParams) (r : ChatRequest) : Act World Value := do
  match ← (scene.ask r).attempt with
  | .ok v => return v
  | .error _ =>
    World.note (.actionCallFailed p.actionType)
    return .null

/-- The same where the answer does not matter. -/
def quietlyTell (scene : Scene) (p : ActionParams) (r : ChatRequest) : Act World Unit := do
  let _ ← quietly scene p r

/-- The user that `target_user` names; the sender where it is blank. -/
def targetUser (scene : Scene) (p : ActionParams) : Act World String :=
  scene.renderOr p.targetUser "\x7buser_id\x7d"

/-- The integer at the head of a text, or a default for none and zero. -/
def integerOr (s : String) (default : Int) : Except Fault Int := do
  return ((← Compute.nonzero? s.toList).getD default)

/-- The action `reply_text`: one of the texts between triple bars by chance, or the whole where there
are none. -/
def replyText (scene : Scene) (value : String) : Act World Unit :=
  match WebCall.variants value with
  | [] => scene.tell (.reply value)
  | texts => do scene.tell (.reply (← World.choose texts value))

/-- The action `reply_json`: a card of a document, or the text itself where it is none. -/
def replyCard (scene : Scene) (value : String) : Act World Unit :=
  match Json.shown? (Json.read value) with
  | some data => scene.tell (.card data)
  | none => scene.tell (.reply value)

/-- The parameters that a text writes; none where it is no document of a map. -/
def writtenParams (s : String) : Table Value :=
  match Json.shown? (Json.read s) with
  | some (.object params) => params
  | _ => []

/-- The parameters of a platform call as `api_params` gives them. There are none where a bad value
keeps their text from being made out. -/
def platformParams (scene : Scene) (p : ActionParams) : Act World (Table Value) := do
  match ← (scene.renderOr p.apiParams "\x7b\x7d").attempt with
  | .ok s => return writtenParams s
  | .error f => if f.isBadValue then return [] else Act.fail f

/-- The action `call_api`: a call of the platform, with its answer in a variable. -/
def platformCall (scene : Scene) (p : ActionParams) : Act World Unit := do
  let params ← platformParams scene p
  let action ← scene.renderOr p.apiAction ""
  let answer ← quietly scene p (.platform action params)
  if p.resultVar ≠ "" then World.assign p.resultVar answer

/-- **What an action does** with its rendered value. -/
def perform (scene : Scene) (p : ActionParams) (value : String) : ActionKind → Act World Unit
  | .text => replyText scene value
  | .image => do
    let caption ← scene.renderOr p.imageText ""
    scene.tell (.image (.address value) (Scene.nonblank caption))
  | .voice => scene.tell (.voice (.address value))
  | .video => scene.tell (.video (.address value))
  | .mention => scene.tell (.mention value)
  | .face => do scene.tell (.face (← Act.of (integerOr value 0)))
  | .poke => scene.tell (.poke (if value = "" then scene.occasion.event.userId else value))
  | .card => replyCard scene value
  | .file => do
    let name ← scene.renderOr p.fileName ""
    scene.tell (.file value (Scene.nonblank name))
  | .music => scene.tell (.music p.musicType value)
  | .forward => scene.tell (.forward (WebCall.variants value))
  | .web => WebCall.run scene p
  | .sign => quietlyTell scene p .sign
  | .ban => do
    let seconds ← Act.of (integerOr (← scene.renderOr p.banDuration "600") 600)
    quietlyTell scene p (.ban (← targetUser scene p) seconds)
  | .kick => do quietlyTell scene p (.kick (← targetUser scene p) p.rejectAdd.isFlagSet)
  | .banAll => quietlyTell scene p (.banAll p.enableBan.isFlagSet)
  | .setCard => do
    let user ← targetUser scene p
    let card ← scene.renderOr p.cardValue ""
    quietlyTell scene p (.setCard user card)
  | .setAdmin => do quietlyTell scene p (.setAdmin (← targetUser scene p) p.enableAdmin.isFlagSet)
  | .notice => quietlyTell scene p (.notice value)
  | .withdraw => do
    quietlyTell scene p (.withdraw (← scene.renderOr p.messageId "\x7bmessage_id\x7d"))
  | .platform => platformCall scene p

/-- **The node `action`**: its value is rendered, whatever the action, and the action is done. -/
def run (scene : Scene) (p : ActionParams) : Act World Unit := do
  let value ← scene.render p.value
  match ActionKind.ofName? p.actionType with
  | some kind => perform scene p value kind
  | none => return ()

end Action

/-- **What a node does.** Triggers, conditions and unknown kinds do nothing by themselves. -/
def Node.run (scene : Scene) (node : Node) : Act World Unit :=
  match node.params with
  | .trigger _ => return ()
  | .condition _ => return ()
  | .action p => Action.run scene p
  | .delay p => Compute.delay p scene.settings.engine.maxDelay
  | .setVar p => Compute.setVar p scene.occasion
  | .storage scope p => Storage.run scope p scene.occasion
  | .leaderboard p => Storage.leaderboard p scene.occasion
  | .math p => Compute.math p scene.occasion
  | .stringOp p => Compute.stringOp p scene.occasion
  | .listRandom p => Compute.listRandom p scene.occasion
  | .inert _ => return ()

end ChatFlow
