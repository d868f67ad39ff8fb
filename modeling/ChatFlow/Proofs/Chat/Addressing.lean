import ChatFlow.Proofs.Walk.Conduct
import ChatFlow.Proofs.Walk.Privacy

/-!
# Calls name the conversation

A surface is bound to one conversation, and what a workflow asks of it becomes calls about this
conversation and no other, whatever texts the workflow puts into them. Two actions are apart: a
message is taken back by its id alone, and a call of the platform is what its author makes it.

* `Conversation.Names` — a call that names the conversation;
* `Conversation.names_of_callOf` — every request that stays in the chat becomes such a call, or
  none;
* `Conduct.addressing` — the conduct of making no other calls, kept by every node without those
  actions;
* `Entry.run_addressed` — **a workflow never addresses another conversation**.
-/

namespace ChatFlow

/-! ## One call -/

/-- **A call that names the conversation.** In a group its parameters have the group. In a private
chat it sends a message or a bundle of messages, to the user and nowhere else. No parameter is given
twice, so that none is overruled by another. -/
def Conversation.Names (c : Conversation) (call : Call) : Prop :=
  ∃ params : Table Value, call.payload = .object params ∧ params.keys.Nodup ∧
    if c.isGroup then params.get? "group_id" = some (.text c.target)
    else (call.name = "send_private_msg" ∨ call.name = "send_private_forward_msg") ∧
      params.get? "user_id" = some (.text c.target)

namespace Conversation

variable {c : Conversation} {call : Call} {refused : Note}

/-- What is sent as a message, under any other name than those of the address. -/
theorem names_sent {key : String} (hkey : key = "message" ∨ key = "messages") (v : Value)
    (name : String) (hname : c.isGroup = false →
      name = "send_private_msg" ∨ name = "send_private_forward_msg") :
    c.Names ⟨name, .object (c.address ++ [(key, v)])⟩ := by
  refine ⟨_, rfl, ?_, ?_⟩
  · rcases hkey with rfl | rfl <;> cases hgroup : c.isGroup <;>
      simp [address, Table.keys, hgroup]
  · cases hgroup : c.isGroup with
    | true => simp [address, hgroup, Table.get?]
    | false => exact ⟨hname hgroup, by simp [address, hgroup, Table.get?]⟩

theorem names_message {segments : List Value}
    (h : c.callOf (.message segments) = some (call, refused)) : c.Names call := by
  obtain ⟨rfl, -⟩ := Prod.mk.inj (Option.some.inj h)
  exact names_sent (.inl rfl) _ _ fun hgroup => .inl (by simp [hgroup])

theorem names_bundle {messages : List Value}
    (h : c.callOf (.bundle messages) = some (call, refused)) : c.Names call := by
  obtain ⟨rfl, -⟩ := Prod.mk.inj (Option.some.inj h)
  exact names_sent (.inr rfl) _ _ fun hgroup => .inr (by simp [hgroup])

/-- A call on the group is made in a group only, and its parameters leave the group alone. -/
theorem names_onGroup {action : String} {params : Table Value}
    (hparams : ("group_id" :: params.keys).Nodup)
    (h : c.callOf (.onGroup action params) = some (call, refused)) : c.Names call := by
  rw [callOf] at h
  cases hgroup : c.isGroup with
  | true =>
    rw [hgroup, if_pos rfl] at h
    obtain ⟨rfl, -⟩ := Prod.mk.inj (Option.some.inj h)
    exact ⟨_, rfl, hparams, by simp [hgroup, Table.get?]⟩
  | false => simp [hgroup] at h

/-- **A request that stays in the chat becomes a call that names it**, if it becomes a call. -/
theorem names_of_callOf {r : ChatRequest} (hr : r.reaches = false) {d : Delivery}
    (hd : c.delivery r = .ok d) (h : c.callOf d = some (call, refused)) : c.Names call := by
  cases r
  case withdraw | platform => cases hr
  case forward =>
    obtain rfl := Except.ok.inj hd
    exact names_bundle h
  case face | card =>
    obtain ⟨_, -, hd⟩ := exists_of_bind_ok hd
    obtain rfl := Except.ok.inj hd
    exact names_message h
  case sign | ban | kick | banAll | setCard | setAdmin | notice =>
    obtain rfl := Except.ok.inj hd
    exact names_onGroup (by simp [Table.keys]) h
  all_goals
    obtain rfl := Except.ok.inj hd
    exact names_message h

end Conversation

/-! ## All calls of a node -/

namespace Conduct

/-- **No calls are made but such that name a conversation.** -/
def addressing (c : Conversation) : Conduct where
  leads u v := ∃ made, v.calls = u.calls ++ made ∧ ∀ call ∈ made, c.Names call
  hangs := True
  refl w := ⟨[], (List.append_nil w.calls).symm, nofun⟩
  trans := by
    rintro u v w ⟨made, hmade, hnames⟩ ⟨more, hmore, hmoreNames⟩
    refine ⟨made ++ more, ?_, List.forall_mem_append.mpr ⟨hnames, hmoreNames⟩⟩
    rw [hmore, hmade, List.append_assoc]

variable (c : Conversation)

theorem permits_addressing : (addressing c).Permits where
  context w _ := (addressing c).refl w
  dice w _ := (addressing c).refl w
  patterns w _ := (addressing c).refl w
  network w _ _ := (addressing c).refl w
  sleeps w _ := (addressing c).refl w
  log w _ := (addressing c).refl w
  disk w _ := (addressing c).refl w

variable {c}

/-- A call that names the conversation may be made, whatever the platform does with it. -/
theorem keeps_addressing_call (platform : Platform) {call : Call} (h : c.Names call) :
    (World.call platform call).Keeps (addressing c) := by
  intro w
  have hone : (addressing c).leads w { w with calls := w.calls ++ [call] } :=
    ⟨[call], rfl, List.forall_mem_singleton.mpr h⟩
  unfold World.call
  split
  · exact ⟨hone, nofun⟩
  · exact ⟨hone, nofun⟩
  · exact ⟨hone, fun _ => trivial⟩

/-- **Whatever stays in the chat keeps to the conversation** that the chat is bound to. -/
theorem manners_addressing {scene : Scene} (h : scene.surface.conversation = some c) :
    Manners (addressing c).Kept scene where
  toInward := (permits_addressing c).inward _
  ask {r} hr := by
    unfold Scene.ask Surface.perform
    rw [h]
    exact ((permits_addressing c).inward scene.occasion.event.userId).deliver c
      fun d call refused hd hc =>
        keeps_addressing_call _ (Conversation.names_of_callOf hr hd hc)

end Conduct

/-! ## All calls of a run -/

/-- **A workflow never addresses another conversation.** Without an action that takes a message back
and one that calls the platform, all calls that a run makes name the conversation that its surface
is bound to: in a group each has the group; in a private chat each sends to the user, and no call on
a group is made. So it is for every message, world and platform, and however the run ends. -/
theorem Entry.run_addressed {v : Value} {w : Workflow} (h : Workflow.load v = .ok w)
    (hw : ∀ node ∈ w.nodes, node.reaches = false) (e : Entry) {scene : Scene} {c : Conversation}
    (hc : scene.surface.conversation = some c) (world : World) :
    ∃ made, (e.run scene w world).2.calls = world.calls ++ made ∧ ∀ call ∈ made, c.Names call := by
  have hpermits := Conduct.permits_addressing c
  have hmanners : Manners (Conduct.addressing c).Kept (e.scene scene) :=
    Conduct.manners_addressing (by rwa [e.surface_scene])
  have hperform : ∀ id node, w.node? id = some node →
      (Walk.performIn (e.scene scene) node).Keeps (Conduct.addressing c) := by
    intro id node hn
    have hstays : node.reaches = false := hw node (Workflow.mem_of_node? h hn).1
    refine hmanners.performIn (hpermits.assigning _) (fun hreach => ?_) (fun _ _ _ => ?_)
      (fun _ _ _ => ?_) fun p _ => hpermits.leaderboard p _
    · exact absurd (hstays.symm.trans hreach) Bool.false_ne_true
    · exact hpermits.owning fun w' _ _ => (Conduct.addressing c).refl w'
    · exact hpermits.sharing fun w' _ _ => (Conduct.addressing c).refl w'
  exact leads_run hpermits (hpermits.inward "").fires hperform world

/-! ## A member removed -/

namespace Bouncer

/-- **A workflow that removes a member**: whoever says `go` is out, and the chat is told so. -/
def document : Value :=
  .object [("id", .text "bouncer"),
    ("nodes", .list [
      .object [("id", .text "ask"), ("type", .text "trigger"),
        ("data", .object [("trigger_content", .text "go")])],
      .object [("id", .text "kick"), ("type", .text "action"),
        ("data", .object [("action_type", .text "group_kick")])],
      .object [("id", .text "tell"), ("type", .text "action"),
        ("data", .object [("action_value", .text "out")])]]),
    ("connections", .list [
      .object [("from_node", .text "ask"), ("to_node", .text "kick")],
      .object [("from_node", .text "kick"), ("to_node", .text "tell")]])]

/-- An action of which nothing was said. -/
def usual : ActionParams :=
  ⟨"reply_text", "", "", "", "qq", "", "", .bool false, .bool false, "", .bool false, "", "",
    "\x7b\x7d", "", "", "GET", "", "", .int 10, "json", "text", "", []⟩

/-- The removal. -/
def kick : Node :=
  ⟨"kick", "action", Node.origin, Node.origin, [("action_type", .text "group_kick")],
    .action { usual with actionType := "group_kick" }⟩

/-- The reply. -/
def tell : Node :=
  ⟨"tell", "action", Node.origin, Node.origin, [("action_value", .text "out")],
    .action { usual with value := "out" }⟩

/-- The workflow as it is loaded. -/
def workflow : Workflow where
  id := "bouncer"
  name := "untitled"
  triggerType := "exact"
  triggerContent := ""
  enabled := true
  stopPropagation := false
  nodes := [Loop.ask, kick, tell]
  connections := [⟨"ask", "kick", successPort⟩, ⟨"kick", "tell", successPort⟩]
  index := ⟨[("ask", Loop.ask), ("kick", kick), ("tell", tell)],
    [("ask", [(successPort, [⟨"ask", "kick", successPort⟩])]),
      ("kick", [(successPort, [⟨"kick", "tell", successPort⟩])])]⟩

theorem load_document : Workflow.load document = .ok workflow := rfl

/-- A group that the surface is bound to. -/
def group : Conversation := ⟨true, "20001", .text "10001", .null⟩

/-- Somebody says `go` in a conversation, on a platform that refuses every call. -/
def scene (c : Conversation) : Scene :=
  { Loop.scene Loop.unwilling ⟨64, 5⟩ with surface := ⟨Loop.unwilling, some c⟩ }

end Bouncer

/-- In a group, both calls are made, although the platform refuses them. -/
theorem Entry.run_addressed_bouncer :
    Conversation.create (.text "group") (.text "20001") (.text "10001") .null = .ok Bouncer.group ∧
      Workflow.load Bouncer.document = .ok Bouncer.workflow ∧
      (∀ node ∈ Bouncer.workflow.nodes, node.reaches = false) ∧
      (Bouncer.scene Bouncer.group).surface.conversation = some Bouncer.group ∧
      (message.run (Bouncer.scene Bouncer.group) Bouncer.workflow Loop.world).2.calls.map
          Call.name = ["set_group_kick", "send_group_msg"] ∧
      ∃ made, (message.run (Bouncer.scene Bouncer.group) Bouncer.workflow Loop.world).2.calls =
          Loop.world.calls ++ made ∧ ∀ call ∈ made, Bouncer.group.Names call := by
  have hstays : ∀ node ∈ Bouncer.workflow.nodes, node.reaches = false := by decide
  exact ⟨rfl, Bouncer.load_document, hstays, rfl, by decide +kernel,
    Entry.run_addressed Bouncer.load_document hstays message rfl Loop.world⟩

/-- In a private chat, nobody can be removed from anything: only the reply is sent. -/
example : (Entry.message.run (Bouncer.scene { Bouncer.group with isGroup := false })
    Bouncer.workflow Loop.world).2.calls.map Call.name = ["send_private_msg"] := by
  decide +kernel

end ChatFlow
