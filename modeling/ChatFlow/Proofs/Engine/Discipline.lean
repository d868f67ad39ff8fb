import ChatFlow.Engine.Walk

/-!
# Disciplines of nodes

What nodes do is put together from few parts: variables, chance, patterns, the web, pauses, notes,
stored values of the user and calls. Whatever is said of acts, and passes from the parts of an act to
the whole, is said of every node as soon as it is said of these parts. That the world is looked at
only as the user sees it is part of the discipline: the other users are out of sight.

* `World.Alike` — two worlds that a user cannot tell apart;
* `Discipline` — what is said of acts, as far as the parts of nodes go: `Outward` for errands that do
  not look at the world, `Inward` without the platform and without writes to variables and to the
  store, `Manners` with the requests to a chat in place of the calls they become;
* `Node.declares` — the variables that a node writes, by its kind;
* `Manners.performIn` — **it is said of the work of every node**; the variables that a node writes,
  nodes that store values, rankings, and requests that reach beyond the chat are asked for by
  themselves;
* `Discipline.performIn` — the same where every call to the platform is allowed;
* `Inward.fires` — and it is said of every trigger.
-/

namespace ChatFlow

/-! ## What a user sees -/

/-- The world with its store put away. -/
def World.storeless (w : World) : World := { w with store := Store.empty }

/-- **Two worlds look alike to a user**: they differ in values of other users only, and in the order
in which values were stored. -/
structure World.Alike (user : String) (s t : World) : Prop where
  /-- everything but the store -/
  storeless : s.storeless = t.storeless
  /-- the values of the user -/
  own (key : String) : (s.store.record user).get? key = (t.store.record user).get? key
  /-- the values for everybody -/
  shared (key : String) : s.store.globals.get? key = t.store.globals.get? key

namespace World.Alike

variable {user : String} {s t : World} (h : World.Alike user s t)

include h

theorem context : s.context = t.context := by
  have hsame : s.storeless.context = t.storeless.context := by rw [h.storeless]
  exact hsame

theorem now : s.now = t.now := by
  have hsame : s.storeless.now = t.storeless.now := by rw [h.storeless]
  exact hsame

theorem zone : s.zone = t.zone := by
  have hsame : s.storeless.zone = t.storeless.zone := by rw [h.storeless]
  exact hsame

theorem valueOf (name : String) : s.valueOf name = t.valueOf name := by
  rw [World.valueOf, h.context, World.valueOf]

theorem userValue (key : String) (default : Value) :
    s.store.userValue user key default = t.store.userValue user key default := by
  rw [Store.userValue, h.own, Store.userValue]

theorem globalValue (key : String) (default : Value) :
    s.store.globalValue key default = t.store.globalValue key default := by
  rw [Store.globalValue, h.shared, Store.globalValue]

theorem fillStored (text : List Char) :
    Template.fillStored s.store user text = Template.fillStored t.store user text := by
  have htext : Template.storedText s.store user = Template.storedText t.store user := by
    funext key
    rw [Template.storedText, h.userValue, Template.storedText]
  rw [Template.fillStored, htext, Template.fillStored]

theorem hasCooled (zone : Zone) (now : Moment) (value : String) :
    Condition.hasCooled s.store user zone now value =
      Condition.hasCooled t.store user zone now value := by
  simp only [Condition.hasCooled, h.userValue]

end World.Alike

/-- **A discipline of errands**: what is said of acts that do not look at the world, notes and web
requests among them, and of the ways in which they are put together. -/
structure Outward (P : (α : Type) → Act World α → Prop) : Prop where
  /-- nothing is done -/
  pure {α : Type} (a : α) : P α (Pure.pure a)
  /-- something fails -/
  fail {α : Type} (f : Fault) : P α (Act.fail f)
  /-- one thing is done after another -/
  bind {α β : Type} {act : Act World α} {next : α → Act World β} :
    P α act → (∀ a, P β (next a)) → P β (act >>= next)
  /-- a failure is rescued -/
  attempt {α : Type} {act : Act World α} : P α act → P _ act.attempt
  /-- notes are written -/
  notes (ns : List Note) : P _ (World.notes ns)
  /-- a request to the web is begun -/
  opened (r : Web.Request) :
    P _ (Act.change fun w : World => { w with exchanges := w.exchanges ++ [⟨r, []⟩] })
  /-- the client of the web is looked at -/
  client : P _ Web.client
  /-- the web is asked -/
  send (sent : Web.Attempt) : P _ (Web.send sent)

/-- **A discipline without a platform**: what is said of acts, of those that nodes are made of, calls
and all writes aside, and of the ways in which they are put together. -/
structure Inward (P : (α : Type) → Act World α → Prop) (user : String) : Prop extends Outward P where
  /-- the world is looked at, as the user sees it -/
  look {α : Type} {next : World → Act World α} :
    (∀ s t, World.Alike user s t → next s = next t) → (∀ w, P α (next w)) → P α (Act.look >>= next)
  /-- a draw is taken -/
  roll : P _ World.roll
  /-- a die is thrown -/
  die (sides : Nat) : P _ (World.die sides)
  /-- an item is chosen -/
  choose (items : List String) (default : String) : P _ (World.choose items default)
  /-- a pause is made -/
  sleep (seconds : Number) : P _ (World.sleep seconds)
  /-- a pattern is looked up -/
  pattern? (text : String) : P _ (World.pattern? text)

/-- **What is said of variables**, of those with certain names: that they may be written. -/
def Assigning (P : (α : Type) → Act World α → Prop) (names : List String) : Prop :=
  ∀ name ∈ names, ∀ v, P _ (World.assign name v)

/-- **What a discipline says of a value of the user.** -/
structure Owning (P : (α : Type) → Act World α → Prop) (user key : String) : Prop where
  /-- it is written -/
  setUser (v : Value) : P _ (World.setUser user key v)
  /-- it is counted up -/
  incrUser (amount : Number) (default : Value) : P _ (World.incrUser user key amount default)
  /-- it is deleted -/
  deleteUser : P _ (World.deleteUser user key)

/-- **A discipline**: what is said of acts, of those that nodes are made of and of the ways in which
they are put together. -/
structure Discipline (P : (α : Type) → Act World α → Prop) (user : String) (platform : Platform) : Prop
    extends Inward P user where
  /-- a variable is written -/
  assign (name : String) (v : Value) : P _ (World.assign name v)
  /-- a value of the user is written -/
  own (key : String) : Owning P user key
  /-- the platform is called -/
  call (c : Call) : P _ (World.call platform c)

/-- **What a discipline says of a value for everybody.** -/
structure Sharing (P : (α : Type) → Act World α → Prop) (key : String) : Prop where
  /-- it is written -/
  setGlobal (v : Value) : P _ (World.setGlobal key v)
  /-- it is counted up -/
  incrGlobal (amount : Number) (default : Value) : P _ (World.incrGlobal key amount default)
  /-- it is deleted -/
  deleteGlobal : P _ (World.deleteGlobal key)

/-! ## Variables of nodes -/

/-- A variable, unless it has no name. -/
def namedVariable (name : String) : List String := if name = "" then [] else [name]

/-- The variables that a web call writes. -/
def WebCall.variables : List String := ["api_status", "api_json", "api_response", "api_binary"]

/-- The variables that a ranking writes. -/
def Storage.rankingVariables : List String :=
  ["leaderboard", "leaderboard_list", "my_rank", "my_value", "total_users", "user_count"]

/-- The variables that operations on text write besides their result. -/
def Compute.textVariables : List String := ["split_list", "split_count", "contains"]

/-- The variables that an action declares. -/
def ActionKind.declares (p : ActionParams) : ActionKind → List String
  | .web => WebCall.variables
  | .platform => namedVariable p.resultVar
  | _ => []

/-- **The variables that a node declares**: it writes no others. -/
def Node.declares (node : Node) : List String :=
  match node.params with
  | .action p => ((ActionKind.ofName? p.actionType).map (ActionKind.declares p)).getD []
  | .setVar p => namedVariable p.varName
  | .storage scope p => [Storage.resultVar scope p]
  | .leaderboard _ => Storage.rankingVariables
  | .math p => [p.resultVar]
  | .stringOp p => p.resultVar :: Compute.textVariables
  | .listRandom p => [p.resultVar, p.indexVar]
  | _ => []

/-! ## Requests beyond the chat -/

/-- **Whether a request reaches beyond the chat**: a message taken back is named by its id, wherever
it stands, and a call of the platform is what its author makes it. -/
def ChatRequest.reaches : ChatRequest → Bool
  | .withdraw _ => true
  | .platform _ _ => true
  | _ => false

/-- The actions that make such requests. -/
def ActionKind.reaches : ActionKind → Bool
  | .withdraw => true
  | .platform => true
  | _ => false

/-- Whether a node is such an action. -/
def Node.reaches (node : Node) : Bool :=
  match node.params with
  | .action p => p.actionType = "recall_msg" || p.actionType = "call_api"
  | _ => false

/-- **Manners**: a discipline in a scene, with what is said of the requests that stay in its chat. -/
structure Manners (P : (α : Type) → Act World α → Prop) (scene : Scene) : Prop
    extends Inward P scene.occasion.event.userId where
  /-- something is asked of the chat -/
  ask {r : ChatRequest} : r.reaches = false → P _ (scene.ask r)

theorem ActionKind.reaches_of_ofName? {name : String} {kind : ActionKind}
    (h : ofName? name = some kind) (hk : kind.reaches = true) :
    name = "recall_msg" ∨ name = "call_api" := by
  unfold ofName? at h
  split at h
  case h_20 => exact .inl rfl
  case h_21 => exact .inr rfl
  case h_22 => cases h
  all_goals
    cases h
    cases hk

namespace WebCall

/-- The template in a line of headers. -/
def lineTemplate (line : List Char) : String := String.ofList (trimChars (cutAt ':' line).2)

/-- **The templates of a web request**, whether its headers are a document or lines. -/
def requestTemplates (p : ActionParams) : List String :=
  p.apiUrl :: p.apiBody :: (lines p.apiHeaders.toList).map lineTemplate

end WebCall

namespace Outward

variable {P : (α : Type) → Act World α → Prop} (h : Outward P)

include h

theorem of {α : Type} (r : Except Fault α) : P α (Act.of r) := by
  cases r with
  | ok a => exact h.pure a
  | error f => exact h.fail f

theorem note (n : Note) : P _ (World.note n) := h.notes [n]

omit h in
theorem ite {α : Type} {p : Prop} [Decidable p] {act other : Act World α} (ha : P α act)
    (ho : P α other) : P α (if p then act else other) := by
  split
  · exact ha
  · exact ho

/-! ## The web -/

theorem receive (sent : Web.Attempt) : P _ (Web.receive sent) := by
  refine h.bind (h.send sent) fun reply => ?_
  cases reply with
  | failure cause message => exact h.fail _
  | response r => exact h.bind h.client fun _ => ite (h.pure _) (h.fail _)

theorem follow (left : Nat) (sent : Web.Attempt) : P _ (Web.follow left sent) := by
  induction left generalizing sent with
  | zero =>
    unfold Web.follow
    refine h.bind (h.receive sent) fun r => ?_
    split
    · exact h.pure _
    · exact h.fail _
  | succ left ih =>
    unfold Web.follow
    refine h.bind (h.receive sent) fun r => ?_
    split
    · exact h.pure _
    · refine h.bind h.client fun _ => ?_
      split
      · exact h.fail _
      · exact ih _

theorem attempts (settings : WebSettings) (r : Web.Request) (n left : Nat) :
    P _ (Web.attempts settings r n left) := by
  induction left generalizing n with
  | zero => exact h.fail _
  | succ left ih =>
    unfold Web.attempts
    refine ite (h.bind (h.note _) fun _ => ?_) ?_
    -- with a note of another attempt or without, the attempt is the same
    all_goals
      refine h.bind h.client fun _ => ?_
      split
      · exact h.fail _
      · refine h.bind (h.attempt (h.follow _ _)) fun ending => ?_
        cases ending with
        | ok response => exact h.pure _
        | error f => exact ite (ih _) (h.fail _)

theorem request (settings : WebSettings) (r : Web.Request) : P _ (Web.request settings r) :=
  h.bind (h.opened r) fun _ => h.attempts _ _ _ _

/-! ## The request of a node -/

theorem lineHeaders {scene : Scene} {rows : List (List Char)}
    (hrender : ∀ line ∈ rows, P _ (scene.render (WebCall.lineTemplate line)))
    (headers : Table String) : P _ (WebCall.lineHeaders scene headers rows) := by
  induction rows generalizing headers with
  | nil => exact h.pure _
  | cons line rest ih =>
    have hrest := ih fun line hline => hrender line (List.mem_cons_of_mem _ hline)
    unfold WebCall.lineHeaders
    exact ite (hrest _) (h.bind (hrender line List.mem_cons_self) fun _ => hrest _)

/-- **What is said of the rendering of its templates is said of the request of a node.** -/
theorem requestOf {scene : Scene} {p : ActionParams}
    (hrender : ∀ template ∈ WebCall.requestTemplates p, P _ (scene.render template)) :
    P _ (WebCall.requestOf scene p) := by
  have hlines := fun line hline =>
    hrender _ (List.mem_cons_of_mem _ (List.mem_cons_of_mem _ (List.mem_map_of_mem (a := line) hline)))
  refine h.bind (hrender _ List.mem_cons_self) fun url => h.bind ?_ fun headers => h.bind ?_ fun _ =>
    h.bind (h.of _) fun _ => h.pure _
  · refine h.bind (h.of _) fun base => ite (h.pure _) ?_
    split
    · exact h.of _
    · exact h.pure _
    · exact h.lineHeaders hlines _
  · refine ite (h.pure _) (h.bind (hrender _ (List.mem_cons_of_mem _ List.mem_cons_self))
      fun content => ?_)
    split
    · exact h.bind (h.of _) fun _ => h.pure _
    · exact h.pure _

/-! ## The chat -/

/-- **What is said of the calls of a delivery is said of the request.** -/
theorem deliver (conversation : Conversation)
    {platform : Platform} {r : ChatRequest}
    (hcall : ∀ d call refused, conversation.delivery r = .ok d →
      conversation.callOf d = some (call, refused) → P _ (World.call platform call)) :
    P _ (conversation.perform platform r) := by
  unfold Conversation.perform
  rcases hd : conversation.delivery r with f | d
  · exact h.fail f
  · have hof : Act.of (.ok d) = (Pure.pure d : Act World Conversation.Delivery) := rfl
    rw [hof, Act.bind_pure_left]
    split
    · exact h.pure _
    · next call refused hc =>
      refine h.bind (h.bind (h.attempt (hcall d call refused hd hc)) fun ending => ?_) fun _ =>
        h.pure _
      cases ending with
      | ok v => exact h.pure _
      | error f => exact h.bind (h.note _) fun _ => h.pure _

/-- **Where every call is allowed, everything may be asked.** -/
theorem ask {scene : Scene}
    (hcall : ∀ c, P _ (World.call scene.surface.platform c)) (r : ChatRequest) :
    P _ (scene.ask r) := by
  unfold Scene.ask Surface.perform
  split
  · next c _ => exact h.deliver c fun _ call _ _ _ => hcall call
  · exact hcall _

end Outward

namespace Inward

open Outward (ite)

section

variable {P : (α : Type) → Act World α → Prop} {user : String} (h : Inward P user)

include h

theorem see {α : Type} {view : World → α}
    (hseen : ∀ s t, World.Alike user s t → view s = view t) : P α (Act.see view) := by
  have hlook : P α (Act.look >>= fun w => Pure.pure (view w)) :=
    h.look (fun s t hst => by rw [hseen s t hst]) fun w => h.pure (view w)
  exact hlook

/-! ## Triggers -/

/-- **What a discipline says is said of every trigger.** -/
theorem fires (p : TriggerParams) (text : String) : P _ (Trigger.fires p text) := by
  unfold Trigger.fires
  refine ite (h.pure _) (ite (h.pure _) ?_)
  split
  case h_5 =>
    refine h.bind (h.pattern? _) fun found => ?_
    cases found with
    | none => exact h.pure _
    | some pattern => exact h.pure _
  all_goals exact h.pure _

end

section

variable {P : (α : Type) → Act World α → Prop} {o : Occasion} (h : Inward P o.event.userId)

include h

/-! ## Templates -/

theorem throwDice (template : List Char) (names : List (String × Nat)) :
    P _ (Template.dice template names) := by
  induction names with
  | nil => exact h.pure _
  | cons name rest ih =>
    unfold Template.dice
    exact ite (h.bind (h.die _) fun _ => h.bind ih fun _ => h.pure _) ih

theorem render (template : String) : P _ (Template.render o template) := by
  unfold Template.render
  refine ite (h.pure _) <| h.look (fun s t hst => ?_) fun _ => h.bind (h.of _) fun _ =>
    h.bind (h.throwDice _ _) fun _ => h.bind (h.of _) fun _ => h.bind (h.of _) fun _ =>
      h.bind (h.of _) fun _ => h.pure _
  -- of the store, a template reads stored values of the user
  simp only [hst.now, hst.zone, hst.context, hst.fillStored]

theorem renderJson (template : String) :
    P _ (Template.renderJson o template) := by
  unfold Template.renderJson
  exact h.bind (h.render template) fun _ => h.look (fun s t hst => by simp only [hst.valueOf]) fun _ =>
    h.bind (h.of _) fun _ => ite (h.bind (h.of _) fun _ => h.pure _) (h.pure _)

/-! ## Questions -/

theorem chance (value : String) : P _ (Condition.chance value) := by
  unfold Condition.chance
  split
  · exact h.pure _
  · exact h.bind h.roll fun _ => h.pure _

theorem matchesPattern (pattern text : String) :
    P _ (Condition.matchesPattern pattern text) := by
  refine h.bind (h.pattern? pattern) fun found => ?_
  cases found with
  | none => exact h.pure _
  | some p => exact h.pure _

theorem answer (kind : Condition.Kind) (varName : String) (value : String) :
    P _ (Condition.answer kind varName o value) := by
  refine h.look (fun s t hst => ?_) fun w => ?_
  · -- of the store, questions read stored values of the user and those for everybody
    simp only [hst.valueOf, hst.context, hst.userValue, hst.globalValue, hst.hasCooled, hst.now, hst.zone]
  cases kind
  case regex => exact h.matchesPattern _ _
  case random => exact h.chance _
  case varEquals | varGreater | varLess | dataIsToday => exact h.bind (h.of _) fun _ => h.pure _
  case expression => exact h.bind (h.of _) fun _ => h.of _
  case dataEquals | cooldown | timeRange | weekdayIn | globalEquals => exact h.of _
  all_goals exact h.pure _

theorem evaluate (p : ConditionParams) : P _ (Condition.evaluate p o) := by
  unfold Condition.evaluate
  split
  · exact h.pure _
  · refine h.bind (h.attempt (h.bind (h.render _) fun _ => h.answer _ _ _)) fun result => ?_
    cases result with
    | ok b => exact h.pure _
    | error f => exact h.bind (h.note _) fun _ => h.pure _

/-! ## Computing -/

theorem arithmetic (kind : Option Compute.MathKind) (a b : Number) :
    P _ (Compute.arithmetic kind a b) := by
  rcases kind with _ | kind
  · exact h.pure _
  cases kind
  case add | sub | mul | mod => exact h.of _
  case div => exact ite (h.pure _) (h.of _)
  case random => exact h.bind (h.of _) fun _ => ite (h.bind h.roll fun _ => h.of _) (h.pure _)
  all_goals exact h.pure _

theorem operand (template : String) : P _ (Compute.operand o template) :=
  h.bind (h.render template) fun _ => h.pure _

theorem math {p : MathParams} (hvars : Assigning P [p.resultVar]) : P _ (Compute.math p o) :=
  h.bind (h.operand _) fun _ => h.bind (h.operand _) fun _ => h.bind (h.arithmetic _ _ _) fun _ =>
    hvars _ List.mem_cons_self _

theorem replaced (target : String) (a b : List Char) : P _ (Compute.replaced target a b) := by
  refine h.bind (h.pattern? target) fun found => ?_
  cases found with
  | none => exact h.pure _
  | some p => exact h.pure _

theorem textual (hvars : Assigning P Compute.textVariables) (kind : Option Compute.TextKind)
    (target a b : String) : P _ (Compute.textual kind target a b) := by
  rcases kind with _ | kind
  · exact h.pure _
  cases kind
  case replace => exact h.replaced _ _ _
  case split =>
    exact h.bind (hvars _ (by simp [Compute.textVariables]) _) fun _ =>
      h.bind (hvars _ (by simp [Compute.textVariables]) _) fun _ => h.pure _
  case substr | times => exact h.bind (h.of _) fun _ => h.pure _
  case contains => exact h.bind (hvars _ (by simp [Compute.textVariables]) _) fun _ => h.pure _
  all_goals exact h.pure _

theorem stringOp {p : StringOpParams} (hvars : Assigning P (p.resultVar :: Compute.textVariables)) :
    P _ (Compute.stringOp p o) :=
  h.bind (h.render _) fun _ => h.bind (h.render _) fun _ =>
    h.bind (h.textual (fun name hname => hvars name (List.mem_cons_of_mem _ hname)) _ _ _ _) fun _ =>
      hvars _ List.mem_cons_self _

theorem byWeights (p : ListRandomParams) (count : Nat) : P _ (Compute.byWeights p count) := by
  unfold Compute.byWeights
  split
  · exact ite (h.bind h.roll fun _ => h.of _) (h.pure _)
  · exact h.pure _

theorem listRandom {p : ListRandomParams} (hvars : Assigning P [p.resultVar, p.indexVar]) :
    P _ (Compute.listRandom p o) := by
  have hboth (v i : Value) :
      P _ (World.assign p.resultVar v >>= fun _ => World.assign p.indexVar i) :=
    h.bind (hvars _ List.mem_cons_self _) fun _ =>
      hvars _ (List.mem_cons_of_mem _ List.mem_cons_self) _
  refine h.bind (h.render p.items) fun items => ?_
  refine ite (hboth _ _) (h.bind (h.byWeights _ _) fun found => ?_)
  cases found with
  | none => exact h.bind h.roll fun _ => hboth _ _
  | some i => exact hboth _ _

theorem setVar {p : SetVarParams} (hvars : Assigning P (namedVariable p.varName)) :
    P _ (Compute.setVar p o) := by
  unfold Compute.setVar
  split
  · exact h.pure _
  · next hname =>
    rw [namedVariable, if_neg hname] at hvars
    exact h.bind (h.render _) fun _ => hvars _ List.mem_cons_self _

theorem delay (p : DelayParams) (limit : Number) : P _ (Compute.delay p limit) :=
  h.bind (h.of _) fun _ => h.sleep _

/-! ## Storing -/

theorem readStored (scope : StorageScope) (key : String) (default : Value) :
    P _ (Storage.read scope o.event.userId key default) := by
  cases scope with
  | user => exact h.see fun s t hst => hst.userValue key default
  | everyone => exact h.see fun s t hst => hst.globalValue key default

section

variable {scope : StorageScope} {key : String}
  (hown : scope = .user → Owning P o.event.userId key) (hshare : scope = .everyone → Sharing P key)

include hown hshare

omit h in
theorem writeStored (v : Value) : P _ (Storage.write scope o.event.userId key v) := by
  cases scope with
  | user => exact (hown rfl).setUser v
  | everyone => exact (hshare rfl).setGlobal v

omit h in
theorem countStored (amount : Number) (default : Value) :
    P _ (Storage.count scope o.event.userId key amount default) := by
  cases scope with
  | user => exact (hown rfl).incrUser amount default
  | everyone => exact (hshare rfl).incrGlobal amount default

omit h in
theorem deleteStored : P _ (Storage.delete scope o.event.userId key) := by
  cases scope with
  | user => exact (hown rfl).deleteUser
  | everyone => exact (hshare rfl).deleteGlobal

/-- **What is said of a stored value is said of every operation on it.** -/
theorem operate (p : StorageParams) (value : String) (operation : Storage.Operation) :
    P _ (Storage.perform scope p o.event.userId key value operation) := by
  cases operation with
  | get => exact h.readStored scope key p.default
  | set => exact h.bind (h.of _) fun _ => h.bind (writeStored hown hshare _) fun _ => h.pure _
  | incr =>
    exact h.bind (h.of _) fun _ => h.bind (countStored hown hshare _ _) fun _ => h.pure _
  | decr =>
    exact h.bind (h.of _) fun _ => h.bind (countStored hown hshare _ _) fun _ => h.pure _
  | delete => exact h.bind (deleteStored hown hshare) fun _ => h.pure _

end

theorem storage {scope : StorageScope} {p : StorageParams}
    (hvars : Assigning P [Storage.resultVar scope p])
    (hown : scope = .user → ∀ key, Owning P o.event.userId key)
    (hshare : scope = .everyone → ∀ key, Sharing P key) : P _ (Storage.run scope p o) := by
  refine h.bind (h.render p.key) fun key => ite (h.pure _) (h.bind (h.render _) fun value => ?_)
  split
  · exact h.pure _
  · exact h.bind (h.operate (fun hscope => hown hscope key) (fun hscope => hshare hscope key) _ _ _)
      fun _ => hvars _ List.mem_cons_self _

end

section

variable {P : (α : Type) → Act World α → Prop} {scene : Scene}
  (h : Inward P scene.occasion.event.userId)

include h

/-! ## Requests and responses -/

theorem requestOf (p : ActionParams) : P _ (WebCall.requestOf scene p) :=
  h.toOutward.requestOf fun _ _ => h.render _

theorem keepResponse (hvars : Assigning P WebCall.variables) (p : ActionParams) (url : String)
    (r : Web.Response) : P _ (WebCall.keep p url r) := by
  have hstatus := hvars "api_status" (by simp [WebCall.variables])
  have hjson := hvars "api_json" (by simp [WebCall.variables])
  have hresponse := hvars "api_response" (by simp [WebCall.variables])
  have hbinary := hvars "api_binary" (by simp [WebCall.variables])
  refine h.bind (hstatus _) fun _ => ?_
  split
  · unfold WebCall.keepDocument
    split
    · exact h.bind (hjson _) fun _ => h.bind (h.of _) fun _ => hresponse _
    · exact hresponse _
  · exact h.bind (hbinary _) fun _ => hresponse _
  · exact hresponse _

theorem webReply (p : ActionParams) : P _ (WebCall.replyText scene p) := by
  unfold WebCall.replyText
  exact ite (h.renderJson _) (h.look (fun s t hst => by simp only [hst.valueOf]) fun _ => h.of _)

end

end Inward

namespace Manners

variable {P : (α : Type) → Act World α → Prop} {scene : Scene} (h : Manners P scene)

include h

theorem tell {r : ChatRequest} (hr : r.reaches = false) : P _ (scene.tell r) :=
  h.bind (h.ask hr) fun _ => h.pure _

theorem renderOr (template default : String) : P _ (scene.renderOr template default) :=
  h.render _

/-! ## Web calls of workflows -/

theorem replyWith (p : ActionParams) : P _ (WebCall.replyWith scene p) := by
  refine h.bind (h.webReply p) fun text =>
    h.look (fun s t hst => by simp only [WebCall.payload, hst.valueOf]) fun w => ?_
  split
  · exact h.bind (h.render _) fun _ => h.tell rfl
  all_goals exact h.tell rfl

theorem webCall (hvars : Assigning P WebCall.variables) (p : ActionParams) :
    P _ (WebCall.run scene p) := by
  refine h.bind (h.requestOf p) fun request => h.bind (h.attempt ?_) fun ending => ?_
  · exact h.bind (h.request _ _) fun _ => h.bind (h.keepResponse hvars p _ _) fun _ => h.replyWith p
  · cases ending with
    | ok _ => exact h.pure _
    | error f => exact h.bind (h.note _) fun _ => h.bind (h.of _) fun _ => h.tell rfl

/-! ## Actions -/

theorem quietly (p : ActionParams) {r : ChatRequest} (hr : P _ (scene.ask r)) :
    P _ (Action.quietly scene p r) := by
  refine h.bind (h.attempt hr) fun ending => ?_
  cases ending with
  | ok v => exact h.pure _
  | error f => exact h.bind (h.note _) fun _ => h.pure _

theorem quietlyTell (p : ActionParams) {r : ChatRequest} (hr : P _ (scene.ask r)) :
    P _ (Action.quietlyTell scene p r) :=
  h.bind (h.quietly p hr) fun _ => h.pure _

theorem targetUser (p : ActionParams) : P _ (Action.targetUser scene p) := h.renderOr _ _

theorem replyText (value : String) : P _ (Action.replyText scene value) := by
  unfold Action.replyText
  split
  · exact h.tell rfl
  · exact h.bind (h.choose _ _) fun _ => h.tell rfl

theorem replyCard (value : String) : P _ (Action.replyCard scene value) := by
  unfold Action.replyCard
  split
  · exact h.tell rfl
  · exact h.tell rfl

theorem platformParams (p : ActionParams) : P _ (Action.platformParams scene p) := by
  refine h.bind (h.attempt (h.renderOr _ _)) fun ending => ?_
  cases ending with
  | ok s => exact h.pure _
  | error f => exact Outward.ite (h.pure _) (h.fail _)

theorem platformCall {p : ActionParams} (hvars : Assigning P (namedVariable p.resultVar))
    (hreach : ∀ r, P _ (scene.ask r)) : P _ (Action.platformCall scene p) := by
  refine h.bind (h.platformParams p) fun _ => h.bind (h.renderOr _ _) fun _ =>
    h.bind (h.quietly _ (hreach _)) fun _ => ?_
  split
  · next hname =>
    rw [namedVariable, if_neg hname] at hvars
    exact hvars _ List.mem_cons_self _
  · exact h.pure _

theorem act {p : ActionParams} {kind : ActionKind} (hvars : Assigning P (kind.declares p))
    (hreach : kind.reaches = true → ∀ r, P _ (scene.ask r)) (value : String) :
    P _ (Action.perform scene p value kind) := by
  cases kind
  case text => exact h.replyText _
  case image | file => exact h.bind (h.renderOr _ _) fun _ => h.tell rfl
  case face => exact h.bind (h.of _) fun _ => h.tell rfl
  case card => exact h.replyCard _
  case web => exact h.webCall hvars p
  case ban =>
    exact h.bind (h.renderOr _ _) fun _ => h.bind (h.of _) fun _ => h.bind (h.targetUser p) fun _ =>
      h.quietlyTell _ (h.ask rfl)
  case kick | setAdmin => exact h.bind (h.targetUser p) fun _ => h.quietlyTell _ (h.ask rfl)
  case setCard =>
    exact h.bind (h.targetUser p) fun _ => h.bind (h.renderOr _ _) fun _ =>
      h.quietlyTell _ (h.ask rfl)
  case withdraw => exact h.bind (h.renderOr _ _) fun _ => h.quietlyTell _ (hreach rfl _)
  case platform => exact h.platformCall hvars (hreach rfl)
  case sign | banAll | notice => exact h.quietlyTell _ (h.ask rfl)
  all_goals exact h.tell rfl

theorem action {p : ActionParams}
    (hvars : ∀ kind, ActionKind.ofName? p.actionType = some kind → Assigning P (kind.declares p))
    (hreach : p.actionType = "recall_msg" ∨ p.actionType = "call_api" → ∀ r, P _ (scene.ask r)) :
    P _ (Action.run scene p) := by
  refine h.bind (h.render _) fun value => ?_
  split
  · next kind hkind =>
    exact h.act (hvars kind hkind) (fun hk => hreach (ActionKind.reaches_of_ofName? hkind hk)) _
  · exact h.pure _

/-! ## Nodes -/

variable {node : Node} (hvars : Assigning P node.declares)
  (hreach : node.reaches = true → ∀ r, P _ (scene.ask r))
  (hown : ∀ p, node.params = .storage .user p → ∀ key, Owning P scene.occasion.event.userId key)
  (hshare : ∀ p, node.params = .storage .everyone p → ∀ key, Sharing P key)
  (hrank : ∀ p, node.params = .leaderboard p → P _ (Storage.leaderboard p scene.occasion))

include hvars hreach hown hshare hrank

/-- **What manners say is said of every node.** -/
theorem run : P _ (Node.run scene node) := by
  unfold Node.declares at hvars
  unfold Node.run
  rcases hp : node.params with _ | p | p | _ | p | ⟨scope, p⟩ | p | p | p | p | _ <;>
    simp only [hp] at hvars ⊢
  case action =>
    refine h.action (fun kind hkind => ?_) fun hname => hreach ?_
    · simpa [hkind] using hvars
    · rw [Node.reaches, hp]
      simpa using hname
  case delay => exact h.delay _ _
  case setVar => exact h.setVar hvars
  case storage =>
    exact h.storage hvars (fun hscope => hown p (hscope ▸ hp)) fun hscope => hshare p (hscope ▸ hp)
  case leaderboard => exact hrank p hp
  case math => exact h.math hvars
  case stringOp => exact h.stringOp hvars
  case listRandom => exact h.listRandom hvars
  all_goals exact h.pure _

/-- **What manners say is said of the work of every node**, a question like any other. -/
theorem performIn : P _ (Walk.performIn scene node) := by
  unfold Walk.performIn
  split
  · exact h.evaluate _
  · exact h.bind (h.run hvars hreach hown hshare hrank) fun _ => h.pure _

end Manners

namespace Discipline

variable {P : (α : Type) → Act World α → Prop} {scene : Scene}
  (h : Discipline P scene.occasion.event.userId scene.surface.platform)

include h

/-- **What a discipline says is said of the work of every node.** -/
theorem performIn (node : Node)
    (hshare : ∀ p, node.params = .storage .everyone p → ∀ key, Sharing P key)
    (hrank : ∀ p, node.params = .leaderboard p → P _ (Storage.leaderboard p scene.occasion)) :
    P _ (Walk.performIn scene node) :=
  Manners.performIn ⟨h.toInward, fun {r} _ => h.ask h.call r⟩ (fun name _ v => h.assign name v)
    (fun _ => h.ask h.call) (fun _ _ => h.own) hshare hrank

end Discipline

end ChatFlow
