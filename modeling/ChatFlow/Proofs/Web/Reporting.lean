import ChatFlow.Proofs.Walk.Entry
import ChatFlow.Proofs.Web.Replies

/-!
# Web calls are reported once

However a web call comes out, the chat hears of it once: what was answered, or why nothing was.

* `Tells` — what the chat is told, by how the call came out;
* `Reportable` — what it takes that nothing fails before the call is made;
* `reports_once` — **a node that calls the web makes one request to the chat**, and does not fail;
* `report_lost` — captures that are no list are a failure before the call, and the chat hears
  nothing of it.
-/

namespace ChatFlow.WebCall

/-- **What the chat is told about a web call**, by how the call came out. -/
inductive Tells (p : ActionParams) (start : String) : Outcome ChatRequest → ChatRequest → Prop where
  /-- what was answered, by the kind of reply -/
  | answered (file : FileRef) (caption : Option String) (text : String) :
    Tells p start (.done (chosen p.replyType file caption text))
      (chosen p.replyType file caption text)
  /-- why nothing was answered -/
  | failed (f : Fault) :
    Tells p start (.failed f) (.reply (start ++ if f.message = "" then "超时" else f.message))

/-- **What it takes that nothing fails before a web call is made**, and that a request to the chat
does not fail. -/
structure Reportable (scene : Scene) (p : ActionParams) (w : World) : Prop where
  /-- every template can be rendered -/
  renderable : Template.Renderable scene.occasion w
  /-- the bot has a name -/
  agent : ∃ s, scene.settings.web.userAgent.show? = .ok s
  /-- the time to wait is not an integer beyond the range of doubles -/
  timeout : ∀ n, p.apiTimeout = .int n → ∃ x, Number.doubleOfInt n = .ok x
  /-- the chat takes requests -/
  calm : scene.surface.Calm

section

variable {scene : Scene} {p : ActionParams} {w : World} {start : String}

theorem apology_eq {settings : WebSettings} (hstart : settings.failurePrefix.show? = .ok start)
    (f : Fault) :
    apology settings f = .ok (start ++ if f.message = "" then "超时" else f.message) := by
  rw [apology, hstart]
  rfl

/-- **From its web request on, a call is one request to the chat.** -/
theorem tells_once (hcalm : scene.surface.Calm)
    (hstart : scene.settings.web.failurePrefix.show? = .ok start) (request : Web.Request)
    (u : World) :
    ∃ message call, Tells p start (answer scene p request u).1 message ∧
      scene.surface.callOf? message = some call ∧
      let told := ((answer scene p request >>= scene.tell).attempt >>= close scene) u
      told.2.calls = u.calls ++ [call] ∧ ∀ f, told.1 ≠ .failed f := by
  obtain ⟨hcalls, hhangs⟩ := keeps_answer scene p request u
  rcases hanswer : answer scene p request u with ⟨r | f | _, v⟩ <;> rw [hanswer] at hcalls hhangs
  · obtain ⟨file, caption, text, rfl⟩ := exists_chosen hanswer
    obtain ⟨call, hcall⟩ := exists_callOf scene.surface p.replyType file caption text
    obtain ⟨⟨log, htold⟩, hfails⟩ := told_of_done hcalm hanswer hcall
    exact ⟨_, call, .answered file caption text, hcall,
      (congrArg World.calls htold).trans (congrArg (· ++ [call]) hcalls), hfails⟩
  · -- the failure is rescued, and what is left to do is to tell it
    obtain ⟨call, hcall⟩ := exists_callOf scene.surface "text" (.address "") none
      (start ++ if f.message = "" then "超时" else f.message)
    have hnote : World.note .webCallFailed v =
        (.done (), { v with log := v.log ++ [.webCallFailed] }) := rfl
    obtain ⟨⟨log, htold⟩, hfails⟩ :=
      Scene.tell_call hcalm hcall { v with log := v.log ++ [.webCallFailed] }
    refine ⟨_, call, .failed f, hcall, ?_⟩
    have hrescued : (answer scene p request >>= scene.tell).attempt u = (.done (.error f), v) := by
      rw [Act.attempt, Act.run_bind_failed hanswer]
    rw [Act.run_bind_done hrescued, close, Act.run_bind_done hnote,
      Act.run_bind_done (Act.run_of_ok (apology_eq hstart f) _)]
    exact ⟨(congrArg World.calls htold).trans (congrArg (· ++ [call]) hcalls), hfails⟩
  · exact absurd (hhangs rfl) id

/-- **A node that calls the web is heard of once**, whatever the web answers and however much is
answered: its request is made out, and then the chat is asked for one thing. This is the kind of reply
that the node asks for, or where the call, the reading of its response or the rendering of the reply
failed, a reply that says why. The node itself does not fail. -/
theorem reports_once {node : Node} (hnode : node.params = .action p)
    (hweb : p.actionType = "custom_api") (hfit : Reportable scene p w)
    (hstart : scene.settings.web.failurePrefix.show? = .ok start) :
    ∃ request dice message call,
      prepare scene p w = (.done request, { w with dice }) ∧
      Tells p start (answer scene p request { w with dice }).1 message ∧
      scene.surface.callOf? message = some call ∧
      (Node.run scene node w).2.calls = w.calls ++ [call] ∧
      ∀ f, (Node.run scene node w).1 ≠ .failed f := by
  obtain ⟨request, dice, hrequest⟩ :=
    settles_prepare (p := p) hfit.renderable hfit.agent hfit.timeout
  obtain ⟨message, call, htells, hcall, htold⟩ :=
    tells_once (p := p) hfit.calm hstart request { w with dice }
  rw [run_node hnode hweb, Act.run_bind_done hrequest]
  exact ⟨request, dice, message, call, hrequest, htells, hcall, htold⟩

end

/-! ## A node that asks the web -/

namespace Inquiry

/-- A node asks the web about the user. -/
def params : ActionParams :=
  ⟨"custom_api", "", "", "", "qq", "", "", .bool false, .bool false, "", .bool false, "", "",
    "\x7b\x7d", "", "http://api.test/\x7buser_id\x7d", "GET", "", "", .int 10, "json", "text", "",
    []⟩

/-- The node of such an action. -/
def node (p : ActionParams) : Node := ⟨"ask", "action", Node.origin, Node.origin, [], .action p⟩

/-- Somebody says `go` in a private chat. -/
def scene : Scene := Loop.scene Loop.willing ⟨64, 256⟩

/-- A world with variables, and with what the web answers. -/
def world (context : Table Value) (script : List Web.Reply) : World :=
  { Loop.world with context, network := ⟨script, 0, .plain⟩ }

/-- What the chat was told. -/
def told (w : World) : List (List String) :=
  w.calls.map fun call => call.payload.items.map Value.textOrBlank

theorem calm : scene.surface.Calm := fun _ _ _ _ => nofun

/-- Where there are no captures, variables that have texts are all it takes. -/
theorem reportable {p : ActionParams} (htimeout : p.apiTimeout = .int 10) {context : Table Value}
    (hcaptures : context.get? "regex_groups" = none)
    (hcontext : ∀ e ∈ context, ∃ s, e.2.toText = .ok s) (script : List Web.Reply) :
    Reportable scene p (world context script) where
  renderable := {
    clock := (by decide : Loop.world.now.isValid = true)
    placed := (by decide : Loop.world.seconds?.isSome)
    captures := ⟨[], by rw [Template.captures, world, hcaptures]⟩
    context := fun e he _ => hcontext e he
    stored := fun key => ⟨"", rfl⟩ }
  agent := ⟨"Mozilla/5.0", rfl⟩
  timeout n hn := by
    obtain rfl : (10 : Int) = n := Number.int.inj (Value.number.inj (htimeout.symm.trans hn))
    exact ⟨Double.ofInt 10, rfl⟩
  calm := calm

/-- A variable that is an integer of few digits has a text. -/
theorem text_of_int {key : String} {n : Int} (h : n.natAbs ≤ Number.digitLimit) :
    ∀ e ∈ ([(key, .int n)] : Table Value), ∃ s, e.2.toText = .ok s :=
  List.forall_mem_singleton.mpr (Json.exists_plainText (n := .int n) (Number.writable_int h))

/-- The web is out of reach. -/
def refused : World := world [("count", .int 3)] [.failure .connectError "refused"]

theorem reportable_refused : Reportable scene params refused :=
  reportable rfl rfl (text_of_int (by decide)) _

end Inquiry

theorem reports_once_refused :
    (Inquiry.node Inquiry.params).params = .action Inquiry.params ∧
      Inquiry.params.actionType = "custom_api" ∧
      Reportable Inquiry.scene Inquiry.params Inquiry.refused ∧
      Inquiry.scene.settings.web.failurePrefix.show? = .ok "API失败: " ∧
      ∃ request dice message call,
        prepare Inquiry.scene Inquiry.params Inquiry.refused =
          (.done request, { Inquiry.refused with dice }) ∧
        Tells Inquiry.params "API失败: "
          (answer Inquiry.scene Inquiry.params request { Inquiry.refused with dice }).1 message ∧
        Inquiry.scene.surface.callOf? message = some call ∧
        (Node.run Inquiry.scene (Inquiry.node Inquiry.params) Inquiry.refused).2.calls = [call] ∧
        ∀ f, (Node.run Inquiry.scene (Inquiry.node Inquiry.params) Inquiry.refused).1 ≠ .failed f :=
  ⟨rfl, rfl, Inquiry.reportable_refused, rfl, reports_once rfl rfl Inquiry.reportable_refused rfl⟩

/-- **Captures that are no list stop the node before its call**: every value here has a text, and the
chat hears nothing. -/
theorem report_lost :
    (∀ e ∈ ([("regex_groups", .int 5)] : Table Value), ∃ s, e.2.toText = .ok s) ∧
      (Node.run Inquiry.scene (Inquiry.node Inquiry.params)
          (Inquiry.world [("regex_groups", .int 5)] [])).1 =
        .failed (.wrongType "'int' object is not iterable") ∧
      Inquiry.told (Node.run Inquiry.scene (Inquiry.node Inquiry.params)
        (Inquiry.world [("regex_groups", .int 5)] [])).2 = [] :=
  ⟨Inquiry.text_of_int (by decide), by decide +kernel, by decide +kernel⟩

end ChatFlow.WebCall
