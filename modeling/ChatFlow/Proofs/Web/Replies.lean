import ChatFlow.Proofs.Engine.Conduct
import ChatFlow.Proofs.Json.Bytes
import ChatFlow.Proofs.Number.Whole
import ChatFlow.Proofs.Template.Passes

/-!
# Web calls up to the reply

A web call in two parts: what leads to a request to the chat, and the request.

* `Scene.tell_call` — a request is one call to the platform, on open and on bound
  surfaces;
* `Act.Settles` — acts that only use up chance; `WebCall.settles_prepare` — where every template can
  be rendered, a node gets as far as its web request by such an act;
* `WebCall.answer` — **a web call up to its request to the chat**, so that a web call is `answer`,
  then one request (`WebCall.run_node`);
* `WebCall.fetch` — the first half of it, until the web has answered, and
  `WebCall.run_node_of_fetch` — what is left of the node then;
* `WebCall.exists_chosen`, `WebCall.keeps_answer` — the request is the one of the kind of reply, and
  until then the chat is left alone.
-/

namespace ChatFlow

deriving instance DecidableEq for Web.Response

/-! ## Requests to the chat -/

namespace Surface

/-- **The call that a request becomes**, if it becomes one. -/
def callOf? (s : Surface) (r : ChatRequest) : Option Call :=
  match s.conversation with
  | none => some ⟨r.name, .list r.arguments⟩
  | some c =>
    match c.delivery r with
    | .ok d => (c.callOf d).map Prod.fst
    | .error _ => none

/-- **A surface whose requests do not fail**: a bound one passes over refused calls, an open one must
be on a platform that refuses none. -/
def Calm (s : Surface) : Prop :=
  s.conversation = none → ∀ before call message, s.platform.respond before call ≠ .fails message

end Surface

/-- A call to the platform is on record, whatever comes of it. -/
theorem World.call_snd (platform : Platform) (c : Call) (w : World) :
    (World.call platform c w).2 = { w with calls := w.calls ++ [c] } := by
  unfold World.call
  split <;> rfl

/-- **A request that becomes a call** is one call, and does not fail on a calm surface. -/
theorem Scene.tell_call {scene : Scene} (hcalm : scene.surface.Calm) {r : ChatRequest} {call : Call}
    (hcall : scene.surface.callOf? r = some call) (w : World) :
    (∃ log, (scene.tell r w).2 = { w with calls := w.calls ++ [call], log }) ∧
      ∀ f, (scene.tell r w).1 ≠ .failed f := by
  suffices h : (∃ log, (scene.ask r w).2 = { w with calls := w.calls ++ [call], log }) ∧
      ∀ f, (scene.ask r w).1 ≠ .failed f by
    unfold Scene.tell
    rw [Act.run_bind]
    rcases hask : scene.ask r w with ⟨v | f | _, u⟩ <;> rw [hask] at h
    · exact ⟨h.1, Outcome.done_ne_failed _⟩
    · exact absurd rfl (h.2 f)
    · exact ⟨h.1, Outcome.hung_ne_failed⟩
  unfold Scene.ask Surface.perform
  unfold Surface.callOf? at hcall
  rcases hc : scene.surface.conversation with _ | c <;> simp only [hc] at hcall ⊢
  · obtain rfl := Option.some.inj hcall
    refine ⟨⟨w.log, World.call_snd _ _ w⟩, fun f => ?_⟩
    unfold World.call
    split
    · exact Outcome.done_ne_failed _ f
    · next message hfails => exact absurd hfails (hcalm hc _ _ message)
    · exact Outcome.hung_ne_failed f
  · rcases hd : c.delivery r with f | d <;> simp only [hd] at hcall
    · cases hcall
    obtain ⟨⟨made, refused⟩, hmade, rfl⟩ := Option.map_eq_some_iff.mp hcall
    have hcalls := World.call_snd scene.surface.platform made w
    -- a refusal becomes a note, and notes are no calls
    unfold Conversation.perform Conversation.quietly
    rw [Act.run_bind_done (Act.run_of_ok hd w)]
    simp only [hmade, Act.run_bind, Act.attempt]
    rcases hrun : World.call scene.surface.platform made w with ⟨v | f | _, u⟩ <;>
      (rw [hrun] at hcalls; obtain rfl := hcalls)
    · exact ⟨⟨_, rfl⟩, Outcome.done_ne_failed _⟩
    · exact ⟨⟨_, rfl⟩, Outcome.done_ne_failed _⟩
    · exact ⟨⟨_, rfl⟩, Outcome.hung_ne_failed⟩

/-! ## Conducts -/

namespace Conduct

/-- No call to the platform is made, and nothing hangs. -/
def silent : Conduct where
  leads w u := u.calls = w.calls
  hangs := False
  refl _ := rfl
  trans huv hvw := hvw.trans huv

theorem permits_silent : silent.Permits where
  context _ _ := rfl
  dice _ _ := rfl
  patterns _ _ := rfl
  network _ _ _ := rfl
  sleeps _ _ := rfl
  log _ _ := rfl
  disk _ _ := rfl

/-- Only the web is called, and notes are written. -/
def remote : Conduct where
  leads w u := ∃ network exchanges log, u = { w with network, exchanges, log }
  hangs := False
  refl w := ⟨w.network, w.exchanges, w.log, rfl⟩
  trans := by
    rintro u _ _ ⟨_, _, _, rfl⟩ ⟨network, exchanges, log, rfl⟩
    exact ⟨network, exchanges, log, rfl⟩

theorem outward_remote : Outward remote.Kept where
  pure a := .pure a
  fail f := .fail f
  bind := .bind
  attempt := .attempt
  notes _ := .change fun _ => ⟨_, _, _, rfl⟩
  opened _ := .change fun _ => ⟨_, _, _, rfl⟩
  client := .see _
  send _ := .step fun _ => ⟨_, _, _, rfl⟩

end Conduct

/-! ## Acts that only use up chance -/

/-- **An act comes to a result, and only chance is used up by it.** -/
def Act.Settles {α : Type} (act : Act World α) (w : World) : Prop :=
  ∃ a dice, act w = (.done a, { w with dice })

namespace Act.Settles

variable {α β : Type} {w : World}

theorem pure (a : α) : (Pure.pure a : Act World α).Settles w := ⟨a, w.dice, rfl⟩

theorem of {r : Except Fault α} (h : ∃ a, r = .ok a) : (Act.of r).Settles w := by
  obtain ⟨a, ha⟩ := h
  exact ⟨a, w.dice, Act.run_of_ok ha w⟩

theorem bind {act : Act World α} {next : α → Act World β} (h : act.Settles w)
    (hnext : ∀ a dice, (next a).Settles { w with dice }) : (act >>= next).Settles w := by
  obtain ⟨a, dice, ha⟩ := h
  obtain ⟨b, dice', hb⟩ := hnext a dice
  exact ⟨b, dice', by rw [Act.run_bind_done ha, hb]⟩

end Act.Settles

theorem Template.Renderable.dice {o : Occasion} {w : World} (h : Renderable o w) (dice : Dice) :
    Renderable o { w with dice } := h.of_same rfl rfl rfl rfl

namespace WebCall

variable {scene : Scene} {p : ActionParams}

/-! ## The way to a web request -/

/-- The web request of a node. Its main text is rendered as well, though there is no use for it. -/
def prepare (scene : Scene) (p : ActionParams) : Act World Web.Request := do
  let _ ← scene.render p.value
  requestOf scene p

theorem exists_tableHeaders {entries : Table Value}
    (h : ∀ entry ∈ entries, ∃ s, entry.2.toText = .ok s) (headers : Table String) :
    ∃ all, tableHeaders headers entries = .ok all := by
  induction entries generalizing headers with
  | nil => exact ⟨headers, rfl⟩
  | cons entry rest ih =>
    obtain ⟨name, v⟩ := entry
    obtain ⟨s, hs⟩ := h (name, v) List.mem_cons_self
    obtain ⟨all, hall⟩ := ih (fun e he => h e (List.mem_cons_of_mem _ he)) (headers.insert name s)
    refine ⟨all, ?_⟩
    rw [tableHeaders, hs]
    exact hall

/-- A document that tells who the bot is can be written, like the one it was. -/
theorem storable_signed (settings : Settings) {v : Value}
    (h : Json.Storable Number.Writable v) : Json.Storable Number.Writable (signed settings v) := by
  unfold signed
  split
  · split
    · exact h
    · exact (h.insert _ (.text _)).insert _ (.text _)
  · exact h

/-- **A time to wait is made out** of anything but an integer that is no double. -/
theorem exists_timeout {v : Value} (h : ∀ n, v = .int n → ∃ x, Number.doubleOfInt n = .ok x)
    (settings : WebSettings) : ∃ n, timeoutOf settings v = .ok n := by
  have hint : ∀ n : Int, n.natAbs < 2 ^ 53 → ∃ b, (Number.int n).truthy = .ok b := by
    intro n hn
    by_cases hzero : n = 0
    · exact ⟨false, if_pos hzero⟩
    · exact ⟨true, Number.truthy_int hzero hn⟩
  have htruthy : ∃ b, v.toNumber.truthy = .ok b := by
    cases v with
    | bool b => cases b <;> exact hint _ (by decide)
    | number n =>
      cases n with
      | double x => exact ⟨_, rfl⟩
      | int n =>
        obtain ⟨x, hx⟩ := h n rfl
        by_cases hzero : n = 0
        · exact ⟨false, if_pos hzero⟩
        · exact ⟨true, by rw [Value.toNumber, Number.truthy, if_neg hzero, hx]; rfl⟩
    | text s =>
      rw [Value.toNumber]
      rcases hs : Number.ofText s with n | x
      · exact hint n (Number.natAbs_lt_of_ofText hs)
      · exact ⟨_, rfl⟩
    | _ => exact ⟨_, rfl⟩
  obtain ⟨b, hb⟩ := htruthy
  unfold timeoutOf
  dsimp only
  rw [hb]
  cases b with
  | true =>
    cases v.toNumber.greater (.int 0)
    · exact ⟨_, rfl⟩
    · exact ⟨_, rfl⟩
  | false => exact ⟨_, rfl⟩

section

variable {w : World} (h : Template.Renderable scene.occasion w)

include h

theorem settles_lineHeaders (headers : Table String) (rows : List (List Char)) :
    (lineHeaders scene headers rows).Settles w := by
  induction rows generalizing headers w with
  | nil => exact .pure headers
  | cons line rest ih =>
    unfold lineHeaders
    dsimp only
    split
    · exact ih h headers
    · exact .bind (h.exists_render _) fun _ dice => ih (h.dice dice) _

theorem settles_headersOf (hagent : ∃ s, scene.settings.web.userAgent.show? = .ok s) :
    (headersOf scene p).Settles w := by
  obtain ⟨agent, hagent⟩ := hagent
  have hbase : ∃ base, baseHeaders scene.settings.web = .ok base := ⟨_, by rw [baseHeaders, hagent]; rfl⟩
  refine .bind (.of hbase) fun base dice => ?_
  split
  · exact .pure base
  · split
    · next entries hread =>
      have hstorable := Json.storable_of_shown hread
      exact .of (exists_tableHeaders (fun entry he =>
        ((Json.storable_object_iff.mp hstorable).2 entry he).exists_toText) base)
    · exact .pure base
    · exact settles_lineHeaders (h.dice dice) _ _

theorem settles_bodyOf (method : String) : (bodyOf scene p method).Settles w := by
  unfold bodyOf
  split
  · exact .pure none
  · refine .bind (h.exists_render _) fun content dice => ?_
    split
    · next v hread =>
      have hstorable := storable_signed scene.settings (Json.storable_of_shown hread)
      exact .bind (.of (hstorable.exists_write .line)) fun _ _ => .pure _
    · exact .pure _

/-- **The request of a node is made out** wherever every template can be rendered. -/
theorem settles_requestOf (hagent : ∃ s, scene.settings.web.userAgent.show? = .ok s)
    (htimeout : ∀ n, p.apiTimeout = .int n → ∃ x, Number.doubleOfInt n = .ok x) :
    (requestOf scene p).Settles w :=
  .bind (h.exists_render _) fun _ dice => .bind (settles_headersOf (h.dice dice) hagent)
    fun _ dice => .bind (settles_bodyOf (h.dice dice) _) fun _ _ =>
      .bind (.of (exists_timeout htimeout _)) fun _ _ => .pure _

/-- **A node gets as far as its web request** wherever every template can be rendered. -/
theorem settles_prepare (hagent : ∃ s, scene.settings.web.userAgent.show? = .ok s)
    (htimeout : ∀ n, p.apiTimeout = .int n → ∃ x, Number.doubleOfInt n = .ok x) :
    (prepare scene p).Settles w :=
  .bind (h.exists_render _) fun _ dice => settles_requestOf (h.dice dice) hagent htimeout

end

/-! ## The two parts of a call -/

/-- **The request to the chat** by the kind of reply. -/
def chosen (kind : String) (file : FileRef) (caption : Option String) (text : String) :
    ChatRequest :=
  match kind with
  | "image" => .image file caption
  | "voice" => .voice file
  | "video" => .video file
  | "forward" => .forward (variants text)
  | _ => .reply text

/-- The caption of a reply: images have one. -/
def captionOf (scene : Scene) (p : ActionParams) : Act World String :=
  if p.replyType = "image" then scene.render p.imageText else pure ""

/-- The request to the chat about a response that is kept. -/
def replyOf (scene : Scene) (p : ActionParams) : Act World ChatRequest := do
  let text ← replyText scene p
  let w ← Act.look
  let caption ← captionOf scene p
  return chosen p.replyType (payload p w text) (Scene.nonblank caption) text

/-- What the web answers to a node, and the address that was asked. -/
def fetch (scene : Scene) (p : ActionParams) : Act World (String × Web.Response) := do
  let request ← prepare scene p
  let response ← Web.request scene.settings.web request
  return (request.url, response)

theorem settles_captionOf {w : World} (h : Template.Renderable scene.occasion w) :
    (captionOf scene p).Settles w := by
  unfold captionOf
  split
  · exact h.exists_render _
  · exact .pure ""

/-- **A web call up to its request to the chat.** -/
def answer (scene : Scene) (p : ActionParams) (request : Web.Request) : Act World ChatRequest := do
  let response ← Web.request scene.settings.web request
  keep p request.url response
  replyOf scene p

/-- The last words about a call: nothing more where it came to its reply, the failure where not. -/
def close (scene : Scene) : Except Fault Unit → Act World Unit
  | .ok _ => pure ()
  | .error f => do
    World.note .webCallFailed
    scene.tell (.reply (← Act.of (apology scene.settings.web f)))

theorem replyWith_eq (scene : Scene) (p : ActionParams) :
    replyWith scene p = replyOf scene p >>= scene.tell := by
  unfold replyWith replyOf captionOf
  rw [Act.bind_assoc]
  congr 1
  funext text
  rw [Act.bind_assoc]
  congr 1
  funext w
  by_cases himage : p.replyType = "image"
  · simp only [himage, if_true, Act.bind_assoc]
    rfl
  · rw [if_neg himage, Act.bind_pure_left, Act.bind_pure_left]
    unfold chosen
    split
    · next hkind => exact absurd hkind himage
    all_goals simp only [*]

/-- A web call is its way to a request, the request, and the last words. -/
theorem run_eq (scene : Scene) (p : ActionParams) :
    run scene p = requestOf scene p >>= fun request =>
      (answer scene p request >>= scene.tell).attempt >>= close scene := by
  unfold run answer
  simp only [replyWith_eq, Act.bind_assoc]
  rfl

/-- **A request that is told** is one call, and the last words add nothing. -/
theorem told_of_done (hcalm : scene.surface.Calm) {act : Act World ChatRequest}
    {message : ChatRequest} {u v : World} (hact : act u = (.done message, v)) {call : Call}
    (hcall : scene.surface.callOf? message = some call) :
    (∃ log, (((act >>= scene.tell).attempt >>= close scene) u).2 =
        { v with calls := v.calls ++ [call], log }) ∧
      ∀ f, (((act >>= scene.tell).attempt >>= close scene) u).1 ≠ .failed f := by
  obtain ⟨htold, hfails⟩ := Scene.tell_call hcalm hcall v
  simp only [Act.run_bind, Act.attempt, hact]
  rcases htell : scene.tell message v with ⟨_ | f | _, t⟩ <;> rw [htell] at htold hfails
  · exact ⟨htold, Outcome.done_ne_failed _⟩
  · exact absurd rfl (hfails f)
  · exact ⟨htold, Outcome.hung_ne_failed⟩

/-- **A node that calls the web** prepares its request, makes one request to the chat, and has the
last words. -/
theorem run_node {node : Node} (hnode : node.params = .action p)
    (hweb : p.actionType = "custom_api") :
    Node.run scene node = prepare scene p >>= fun request =>
      (answer scene p request >>= scene.tell).attempt >>= close scene := by
  have hkind : ActionKind.ofName? p.actionType = some .web := by rw [hweb]; rfl
  rw [Node.run, hnode]
  simp only [Action.run, hkind, Action.perform, run_eq, prepare, Act.bind_assoc]

/-- What the web answers to a node leaves the rest of the world as it was. -/
theorem exists_of_fetch {w : World} (hprepare : (prepare scene p).Settles w) {url : String}
    {r : Web.Response} (hfetch : (fetch scene p w).1 = .done (url, r)) :
    ∃ u, fetch scene p w = (.done (url, r), u) ∧ u.context = w.context ∧ u.store = w.store ∧
      u.now = w.now ∧ u.zone = w.zone ∧ u.calls = w.calls := by
  rcases hrun : fetch scene p w with ⟨ending, v⟩
  rw [hrun] at hfetch
  subst hfetch
  obtain ⟨request, dice, hrequest⟩ := hprepare
  obtain ⟨request', u, hrequest', hrun⟩ := Act.exists_of_bind_done hrun
  obtain ⟨-, rfl⟩ := Prod.mk.inj (hrequest.symm.trans hrequest')
  obtain ⟨response, t, hresponse, hrun⟩ := Act.exists_of_bind_done hrun
  obtain ⟨-, rfl⟩ := Prod.mk.inj hrun
  have hremote := (Conduct.outward_remote.request scene.settings.web request' { w with dice }).1
  rw [hresponse] at hremote
  obtain ⟨network, exchanges, log, rfl⟩ := hremote
  exact ⟨_, rfl, rfl, rfl, rfl, rfl, rfl⟩

/-- **A node that the web has answered** keeps the response, makes its request and has the last
words. -/
theorem run_node_of_fetch {node : Node} (hnode : node.params = .action p)
    (hweb : p.actionType = "custom_api") {w v : World} {url : String} {r : Web.Response}
    (hfetch : fetch scene p w = (.done (url, r), v)) :
    Node.run scene node w =
      (((keep p url r >>= fun _ => replyOf scene p) >>= scene.tell).attempt >>= close scene) v := by
  obtain ⟨request, u, hrequest, hfetch⟩ := Act.exists_of_bind_done hfetch
  obtain ⟨response, t, hresponse, hfetch⟩ := Act.exists_of_bind_done hfetch
  obtain ⟨hpair, rfl⟩ := Prod.mk.inj hfetch
  obtain ⟨rfl, rfl⟩ := Prod.mk.inj (Outcome.done.inj hpair)
  have hanswer : (answer scene p request >>= scene.tell).attempt u =
      ((keep p request.url response >>= fun _ => replyOf scene p) >>= scene.tell).attempt t := by
    unfold answer
    simp only [Act.attempt, Act.bind_assoc]
    rw [Act.run_bind_done hresponse]
  rw [run_node hnode hweb, Act.run_bind_done hrequest, Act.run_bind_congr hanswer]

/-! ## Until the request to the chat -/

/-- **Until its request a web call leaves the chat alone**, and does not hang. -/
theorem keeps_answer (scene : Scene) (p : ActionParams) (request : Web.Request) :
    (answer scene p request).Keeps Conduct.silent := by
  have h := Conduct.permits_silent.inward scene.occasion.event.userId
  have hvars := Conduct.permits_silent.assigning WebCall.variables
  exact h.bind (h.request _ _) fun _ => h.bind (h.keepResponse hvars p _ _) fun _ =>
    h.bind (h.webReply p) fun _ => .bind .look fun _ =>
      h.bind (Outward.ite (h.render _) (h.pure _)) fun _ => h.pure _

/-- The requests of web calls are calls on every surface. -/
theorem exists_callOf (s : Surface) (kind : String) (file : FileRef) (caption : Option String)
    (text : String) : ∃ call, s.callOf? (chosen kind file caption text) = some call := by
  unfold chosen
  split
  all_goals
    unfold Surface.callOf?
    split
    · exact ⟨_, rfl⟩
    · exact ⟨_, rfl⟩

/-- **What a web call asks of the chat** is the request of its kind of reply, with the text that its
response gives. -/
theorem exists_chosen {request : Web.Request} {w u : World} {r : ChatRequest}
    (h : answer scene p request w = (.done r, u)) :
    ∃ file caption text, r = chosen p.replyType file caption text := by
  obtain ⟨_, _, -, h⟩ := Act.exists_of_bind_done h
  obtain ⟨_, _, -, h⟩ := Act.exists_of_bind_done h
  obtain ⟨text, _, -, h⟩ := Act.exists_of_bind_done h
  obtain ⟨w, _, -, h⟩ := Act.exists_of_bind_done h
  obtain ⟨caption, _, -, h⟩ := Act.exists_of_bind_done h
  obtain ⟨hr, -⟩ := Prod.mk.inj h
  exact ⟨payload p w text, Scene.nonblank caption, text, (Outcome.done.inj hr).symm⟩

end WebCall

end ChatFlow
