import ChatFlow.Proofs.Service.Gate
import ChatFlow.Proofs.Service.Requests
import ChatFlow.Proofs.Walk.Entry
import ChatFlow.Proofs.Workflow.Stock

/-!
# Management without the password

Where a master password is set, those who do not know it can save, switch and delete workflows all
the same. But no workflow of theirs has a trigger of the kinds that fire on any text, and the
scheduler is left alone.

* `Service.Harmless` — a workflow that is loaded from a document, without such triggers;
* `Service.Tame` — **an act that leaves an archive of harmless workflows harmless**, and the
  scheduler, the stored values, the chat and the web untouched;
* `Service.Workflows.tame_saveNodes` — what the gate lets pass is saved as a harmless workflow;
* `Service.still_serve` — the endpoints of tasks do nothing for requests without the password;
* `Service.tame_serve` — every endpoint of management is tame for such requests;
* `Service.harmless_after` — **and so is every sequence of them**.
-/

namespace ChatFlow

/-- **Whether all is left alone** but the files of workflows, chance, the clock and the notes. -/
structure Bot.Untouched (s t : Bot) : Prop where
  /-- the agenda is the same -/
  agenda : t.agenda = s.agenda
  /-- and so is every other file -/
  files : ∀ name, Archive.draft ≠ name → Archive.file ≠ name →
    t.world.disk.entries.get? name = s.world.disk.entries.get? name
  /-- and what else there is in the world: what was stored, said, asked of the web, or waited for -/
  world : t.world = { s.world with
    disk := t.world.disk, dice := t.world.dice, log := t.world.log, now := t.world.now }

namespace Bot.Untouched

variable {s t u : Bot}

theorem refl (s : Bot) : s.Untouched s := ⟨rfl, fun _ _ _ => rfl, rfl⟩

theorem trans (h : s.Untouched t) (h' : t.Untouched u) : s.Untouched u where
  agenda := h'.agenda.trans h.agenda
  files name hdraft hfile := (h'.files name hdraft hfile).trans (h.files name hdraft hfile)
  world := h'.world.trans (congrArg (fun w : World => { w with
    disk := u.world.disk, dice := u.world.dice, log := u.world.log, now := u.world.now }) h.world)

end Bot.Untouched

/-- The bot when the clock shows a moment. -/
def Bot.at (now : Moment) (bot : Bot) : Bot := { bot with world := { bot.world with now } }

theorem Bot.untouched_at (now : Moment) (bot : Bot) : bot.Untouched (bot.at now) :=
  ⟨rfl, fun _ _ _ => rfl, rfl⟩

namespace Service

/-! ## Harmless workflows -/

/-- **A workflow as it is loaded from a document, without triggers that fire on any text.** -/
def Harmless (w : Workflow) : Prop := w.Sound ∧ w.Unarmed

theorem endures_harmless : Archive.Endures Harmless where
  exact h := h.1.storable_document.exact
  reloaded h hload := ⟨Workflow.sound_of_load h.1.storable_document hload,
    h.2.reloaded h.1 hload⟩
  turned h := ⟨h.1.withEnabled _, h.2⟩

/-! ## Tame acts -/

/-- **An act that leaves an archive of harmless workflows harmless**, and all else untouched. -/
structure Tame {α : Type} (act : Act Bot α) : Prop where
  /-- all else is untouched -/
  untouched (bot : Bot) : bot.Untouched (act bot).2
  /-- workflows stay harmless -/
  stocked {bot : Bot} (h : bot.archive.Stocked Harmless) : (act bot).2.archive.Stocked Harmless

namespace Tame

variable {α β : Type}

/-- An act that leaves the bot as it is. -/
theorem still {act : Act Bot α} (h : ∀ bot, (act bot).2 = bot) : Tame act where
  untouched bot := by
    rw [h]
    exact .refl bot
  stocked hbot := by
    rwa [h]

theorem pure (a : α) : Tame (Pure.pure a : Act Bot α) := still fun _ => rfl

theorem see (view : Bot → α) : Tame (Act.see view) := still fun _ => rfl

theorem of (r : Except Fault α) : Tame (Act.of r : Act Bot α) := by
  cases r with
  | ok a => exact still fun _ => rfl
  | error f => exact still fun _ => rfl

/-- One act after another. What the first one changed stays changed where it fails or hangs. -/
theorem bind {act : Act Bot α} {next : α → Act Bot β} (h : Tame act)
    (hnext : ∀ a, Tame (next a)) : Tame (act >>= next) where
  untouched bot := Act.leads_bind (R := Bot.Untouched) Bot.Untouched.trans (h.untouched bot)
    fun _ => (hnext _).untouched _
  stocked := Act.leads_bind
    (R := fun s t : Bot => s.archive.Stocked Harmless → t.archive.Stocked Harmless)
    (fun hs ht => ht ∘ hs) h.stocked fun _ => (hnext _).stocked

theorem attempt {act : Act Bot α} (h : Tame act) : Tame act.attempt where
  untouched bot := by
    rw [Act.attempt_snd]
    exact h.untouched bot
  stocked hbot := by
    rw [Act.attempt_snd]
    exact h.stocked hbot

/-- One draw of chance. -/
theorem choose (items : List String) (default : String) :
    Tame (Bot.inWorld (World.choose items default)) where
  untouched _ := ⟨rfl, fun _ _ _ => rfl, rfl⟩
  stocked h := h

/-- **A request to the archive**, if the workflow that it saves is harmless. -/
theorem inArchive {act : Act Archive α} (r : Archive.Request) (h : ∀ a, (act a).2 = (r.act a).2)
    (hsaved : ∀ w, r = .upsert w → Harmless w) : Tame (Bot.inArchive act) where
  untouched bot := by
    refine ⟨rfl, fun name hdraft hfile => ?_, rfl⟩
    have hother := r.get?_act_of_ne hdraft hfile bot.archive
    rwa [← h] at hother
  stocked hbot := by
    have hact := hbot.act endures_harmless hsaved
    rwa [← h] at hact

theorem load : Tame (Bot.inArchive Archive.load) :=
  inArchive .load (fun a => by rw [Archive.Request.act, Act.run_bind_return]) nofun

theorem upsert {w : Workflow} (h : Harmless w) : Tame (Bot.inArchive (Archive.upsert w)) :=
  inArchive (.upsert w) (fun a => by rw [Archive.Request.act, Act.run_bind_return])
    fun _ hsame => Archive.Request.upsert.inj hsame ▸ h

theorem delete (id : String) : Tame (Bot.inArchive (Archive.delete id)) :=
  inArchive (.delete id) (fun a => by rw [Archive.Request.act, Act.run_bind_return]) nofun

theorem toggle (id : String) : Tame (Bot.inArchive (Archive.toggle id)) :=
  inArchive (.toggle id) (fun a => by rw [Archive.Request.act, Act.run_bind_return]) nofun

/-- Something done with what a request holds. -/
theorem given {found : Except Reply α} {act : α → Endeavour}
    (h : ∀ a, found = .ok a → Tame (act a)) : Tame (Service.given found act) := by
  cases found with
  | ok a => exact h a rfl
  | error reply => exact .pure reply

theorem withId {request : IdRequest} {act : String → Endeavour} (h : ∀ id, Tame (act id)) :
    Tame (request.withId act) := by
  rw [IdRequest.withId]
  split
  · exact .pure _
  · exact h request.id

/-- Something done with a computed result. -/
theorem ofThen {r : Except Fault α} {next : α → Act Bot β} (h : ∀ a, r = .ok a → Tame (next a)) :
    Tame (Act.of r >>= next) := by
  cases r with
  | ok a => exact h a rfl
  | error f => exact still fun _ => rfl

end Tame

/-! ## Saving -/

namespace Workflows

theorem tame_chanceText (count : Nat) : Tame (chanceText count) := by
  induction count with
  | zero => exact .pure _
  | succ count ih => exact (Tame.choose _ _).bind fun _ => ih.bind fun _ => .pure _

theorem tame_freshId : Tame freshId :=
  ((Tame.see _).bind fun _ => .of _).bind fun _ => (tame_chanceText _).bind fun _ => .pure _

theorem tame_existing? (id : Value) : Tame (existing? id) := by
  rw [existing?]
  split
  · exact Tame.load.bind fun _ => .pure _
  · exact .pure _

/-- A document that is loaded as a harmless workflow, if it is loaded at all, can be stored. -/
theorem tame_store {document : Value} (h : ∀ w, Workflow.load document = .ok w → Harmless w) :
    Tame (store document) := by
  rw [store]
  split
  · exact .pure _
  · next w hload =>
    refine (Tame.upsert (h w hload)).bind fun saved => ?_
    split
    · exact .pure _
    · exact .pure _

section

variable {kind : Number → Prop} {entries : Table Value}
  (h : Json.Storable kind (.object entries))

include h

theorem storable_orNull (key : String) : Json.Storable kind (Value.orNull (entries.get? key)) := by
  rcases hv : entries.get? key with _ | v
  · exact .null
  · exact h.get? hv

theorem storable_presentOr (key : String) {default : Value} (hdefault : Json.Storable kind default) :
    Json.Storable kind (presentOr entries key default) := by
  rw [presentOr]
  split
  · exact storable_orNull h key
  · exact hdefault

theorem storable_givenOr (key : String) {default : Value} (hdefault : Json.Storable kind default) :
    Json.Storable kind (givenOr entries key default) := by
  rw [givenOr]
  split
  · exact hdefault
  · exact hdefault
  · next hv => exact h.get? hv

/-- The document of a workflow as it was sent can be held by a document. -/
theorem storable_documentOf {id nodes : Value} (hid : Json.Storable kind id)
    (hnodes : Json.Storable kind nodes) (stored : Option Workflow) :
    Json.Storable kind (documentOf id nodes entries stored) := by
  have hkept {view : Workflow → Value} (hview : ∀ w, Json.Storable kind (view w)) {default : Value}
      (hdefault : Json.Storable kind default) :
      Json.Storable kind ((stored.map view).getD default) := by
    cases stored with
    | none => exact hdefault
    | some w => exact hview w
  refine .object (by simp [Table.keys]) ?_
  simp only [List.forall_mem_cons]
  exact ⟨hid, storable_presentOr h _ (hkept (fun w => .text w.name) (.text _)),
    storable_presentOr h _ (hkept (fun w => .text w.triggerType) (.text _)),
    storable_givenOr h _ (hkept (fun w => .text w.triggerContent) (.text _)),
    storable_givenOr h _ (hkept (fun w => .bool w.enabled) (.bool _)), .bool _, hnodes,
    storable_presentOr h _ (.list (List.forall_mem_nil _)), List.forall_mem_nil _⟩

end

/-- **What the gate lets pass is saved as a harmless workflow.** -/
theorem tame_saveNodes {entries : Table Value}
    (h : Json.Storable Number.Writable (.object entries))
    (hneeds : Gate.needsMaster (.object entries) = .ok false) :
    Tame (saveNodes entries (Value.orNull (entries.get? "nodes"))) := by
  obtain ⟨sent, hsent, hsafe⟩ := Gate.exists_of_needsMaster hneeds
  have hstore {id : Value} (hid : Json.Storable Number.Writable id) (stored : Option Workflow) :
      Tame (store (documentOf id (Value.orNull (entries.get? "nodes")) entries stored)) := by
    refine tame_store fun w hload => ?_
    have hdocument := storable_documentOf h hid (storable_orNull h "nodes") stored
    exact ⟨Workflow.sound_of_load hdocument hload,
      Gate.unarmed_of_load hdocument hsent hsafe hload⟩
  refine (tame_existing? _).bind fun stored => ?_
  -- the nodes are those of the request, whatever is stored under the id
  split
  · exact hstore (storable_orNull h "id") stored
  · exact tame_freshId.bind fun id => hstore (.text id) stored

end Workflows

/-! ## Requests without the password -/

section

variable {host : Host} {r : Request} (hr : ¬ r.Carries host.settings.masterPassword)
  (hset : host.settings.masterPassword ≠ "")

include hr hset

namespace Workflows

theorem tame_save : Tame (save host r) := by
  refine .given fun entries hentries => .ofThen fun needs hneeds => ?_
  -- only what the gate takes for harmless gets as far as being saved
  split
  · rw [Host.guarded_of_wrong hr hset (password_ne_of_entries hr hentries)]
    exact .pure _
  · next hfree =>
    rw [Bool.not_eq_true] at hfree
    rw [hfree] at hneeds
    split
    · exact .pure _
    · split
      · exact tame_saveNodes (Request.storable_entries hentries) hneeds
      · exact .pure _

end Workflows

/-! ### Tasks -/

namespace Tasks

theorem still_add (bot : Bot) : (add host r bot).2 = bot := by
  rw [add]
  rcases hentries : r.entries with reply | entries
  · rfl
  · rw [given, Host.guarded_of_wrong hr hset (password_ne_of_entries hr hentries)]
    rfl

theorem still_withTask (htask : r.IsAboutTask) (act : String → Endeavour) (bot : Bot) :
    (withTask host r act bot).2 = bot := by
  rw [withTask]
  rcases hread : r.read IdRequest.read with reply | request
  · rfl
  · rw [given, Host.guarded_of_wrong hr hset (password_ne_of_read hr hset htask hread)]
    rfl

end Tasks

end

namespace Workflows

theorem tame_delete (r : Request) : Tame (delete r) :=
  .given fun _ _ => .withId fun id => (Tame.delete id).bind fun _ => .pure _

theorem tame_toggle (r : Request) : Tame (toggle r) :=
  .given fun _ _ => .withId fun id => (Tame.toggle id).bind fun _ => .pure _

end Workflows

/-! ## Endpoints of management -/

namespace Endpoint

/-- The endpoints that change workflows. -/
def ofWorkflows : List Endpoint := [.saveWorkflow, .deleteWorkflow, .toggleWorkflow]

/-- The endpoints that change tasks, or run them. -/
def ofTasks : List Endpoint := .addTask :: ofTask

theorem exists_withTask {e : Endpoint} (he : e ∈ ofTask) (host : Host) (r : Request) :
    ∃ act, e.serve host r = Tasks.withTask host r act := by
  simp only [ofTask, List.mem_cons, List.not_mem_nil, or_false] at he
  rcases he with rfl | rfl | rfl
  · exact ⟨_, rfl⟩
  · exact ⟨_, rfl⟩
  · exact ⟨_, rfl⟩

theorem path_eq_of_find {method path : String} {e : Endpoint} (h : find method path = .ok e) :
    e.path = path := by
  rw [find] at h
  split at h
  · next found hfound =>
    split at h
    · obtain rfl := Except.ok.inj h
      rw [ofPath?] at hfound
      simpa using List.find?_some hfound
    · cases h
  · cases h

end Endpoint

/-- **Whether a request is one of management**: it has the path of an endpoint that changes workflows
or tasks. -/
def Request.IsManagement (r : Request) : Prop :=
  ∃ e ∈ Endpoint.ofWorkflows ++ Endpoint.ofTasks, r.target.path = e.path

section

variable {host : Host} {r : Request} (hr : ¬ r.Carries host.settings.masterPassword)
  (hset : host.settings.masterPassword ≠ "")

include hr hset

/-- **The endpoints of tasks do nothing** for a request without the password. -/
theorem still_serve {e : Endpoint} (he : e ∈ Endpoint.ofTasks) (hpath : r.target.path = e.path)
    (bot : Bot) : (e.serve host r bot).2 = bot := by
  rcases List.mem_cons.mp he with rfl | htask
  · exact Tasks.still_add hr hset bot
  · obtain ⟨act, hserve⟩ := Endpoint.exists_withTask htask host r
    rw [hserve]
    exact Tasks.still_withTask hr hset ⟨e, htask, hpath⟩ act bot

/-- **The endpoints of management are tame** for a request without the password. -/
theorem tame_serve {e : Endpoint} (he : e ∈ Endpoint.ofWorkflows ++ Endpoint.ofTasks)
    (hpath : r.target.path = e.path) : Tame (e.serve host r) := by
  rcases List.mem_append.mp he with hworkflows | htasks
  · simp only [Endpoint.ofWorkflows, List.mem_cons, List.not_mem_nil, or_false] at hworkflows
    rcases hworkflows with rfl | rfl | rfl
    · exact Workflows.tame_save hr hset
    · exact Workflows.tame_delete r
    · exact Workflows.tame_toggle r
  · exact .still (still_serve hr hset htasks hpath)

theorem tame_answer (hmanagement : r.IsManagement) : Tame (host.answer r) := by
  rw [Host.answer]
  split
  · exact .pure _
  · next e hfound =>
    obtain ⟨expected, hexpected, hpath⟩ := hmanagement
    obtain rfl := Endpoint.path_injective ((Endpoint.path_eq_of_find hfound).trans hpath)
    refine (tame_serve hr hset hexpected hpath).attempt.bind fun ended => ?_
    split
    · exact .pure _
    · exact .pure _

end

/-! ## Sequences of requests -/

/-- **The bot after requests**, each made when the clock showed a moment. -/
def Host.after (host : Host) (bot : Bot) : List (Moment × Request) → Bot
  | [] => bot
  | (now, r) :: rest => host.after (host.answer r (bot.at now)).2 rest

/-- **What requests without the password keep**: an archive of harmless workflows, and all else. -/
theorem kept_after {host : Host} (hset : host.settings.masterPassword ≠ "")
    {requests : List (Moment × Request)}
    (hrequests : ∀ x ∈ requests,
      x.2.IsManagement ∧ ¬ x.2.Carries host.settings.masterPassword) {bot : Bot}
    (hbot : bot.archive.Stocked Harmless) :
    (host.after bot requests).archive.Stocked Harmless ∧
      bot.Untouched (host.after bot requests) := by
  induction requests generalizing bot with
  | nil => exact ⟨hbot, .refl bot⟩
  | cons x rest ih =>
    rw [List.forall_mem_cons] at hrequests
    obtain ⟨⟨hmanagement, hr⟩, hrest⟩ := hrequests
    obtain ⟨now, r⟩ := x
    have hone := tame_answer hr hset hmanagement
    -- the clock is no part of the archive
    have hstocked : (bot.at now).archive.Stocked Harmless := hbot
    obtain ⟨hlater, huntouched⟩ := ih hrest (hone.stocked hstocked)
    exact ⟨hlater, ((bot.untouched_at now).trans (hone.untouched _)).trans huntouched⟩

/-- **Those who do not know the master password get no trigger that fires on any text, and do not
reach the scheduler**, whatever they ask of its management: the workflows at hand have no such
triggers afterwards, neither has what an archive opened anew loads, and all else is untouched. -/
theorem harmless_after {host : Host} (hset : host.settings.masterPassword ≠ "") {bot : Bot}
    (hremembered : ∀ workflows, bot.remembered = some workflows →
      ∀ w ∈ workflows, w.Sound ∧ w.Unarmed)
    (hheld : ∀ workflows notes, Archive.readFile bot.world.disk = .ok (workflows, notes) →
      ∀ w ∈ workflows, w.Unarmed)
    {requests : List (Moment × Request)}
    (hrequests : ∀ x ∈ requests,
      x.2.IsManagement ∧ ¬ x.2.Carries host.settings.masterPassword) :
    (∀ workflows a, Archive.load (host.after bot requests).archive = (.done workflows, a) →
      ∀ w ∈ workflows, w.Unarmed) ∧
    (∀ workflows a, Archive.load (Archive.opened (host.after bot requests).world.disk) =
      (.done workflows, a) → ∀ w ∈ workflows, w.Unarmed) ∧
    bot.Untouched (host.after bot requests) := by
  have hbot : bot.archive.Stocked Harmless := by
    refine ⟨fun h w hw => hremembered _ h w hw, fun hread w hw => ⟨?_, hheld _ _ hread w hw⟩⟩
    exact Archive.sound_of_readFile hread w hw
  obtain ⟨hstocked, huntouched⟩ := kept_after hset hrequests hbot
  -- an archive opened anew remembers nothing, and finds the same file
  have hopened : (Archive.opened (host.after bot requests).world.disk).Stocked Harmless :=
    ⟨nofun, hstocked.held⟩
  exact ⟨fun _ _ hload w hw => (hstocked.forall_load hload w hw).2,
    fun _ _ hload w hw => (hopened.forall_load hload w hw).2, huntouched⟩

/-! ## A guess -/

namespace Guess

/-- A host with a master password. -/
def host : Host := ⟨{ Settings.default with masterPassword := "key" }, some Loop.willing⟩

/-- A bot that remembers the gauge. -/
def bot : Bot :=
  { Bot.inWorldOf Loop.world with remembered := some [Gauge.workflow (.int 3)] }

/-- **A workflow that would fire on any text**, with a guess at the password. -/
def entries : Table Value :=
  [("id", .text "all"),
    ("nodes", .list [.object [("id", .text "ask"), ("type", .text "trigger"),
      ("data", .object [("trigger_type", .text "any")])]]),
    (passwordKey, .text "guess")]

/-- The entries as they are written. -/
def content : String :=
  "\x7b\n  \"id\": \"all\",\n  \"nodes\": [\n    \x7b\n      \"id\": \"ask\"," ++
  "\n      \"type\": \"trigger\",\n      \"data\": \x7b\n        \"trigger_type\": \"any\"" ++
  "\n      \x7d\n    \x7d\n  ],\n  \"master_password\": \"guess\"\n\x7d"

/-- The entries sent to a path. -/
def sent (path : String) : Request :=
  ⟨"POST", ⟨path, []⟩, none, Utf8.encode content.toList⟩

theorem write_entries : Json.write .stored (.object entries) = .ok content := by
  decide +kernel

theorem entries_sent (path : String) : (sent path).entries = .ok entries := by
  have hexact : Json.Exact (.object entries) := by
    simp [entries, passwordKey, Json.Exact, Json.FieldsExact, Json.ItemsExact, Table.keys]
  have hbody : (sent path).body = Utf8.encode content.toList := by rw [sent]
  exact Request.entries_of_write Json.Layout.readable_stored hexact write_entries rfl hbody

/-- The guess is wrong. -/
theorem not_carries_sent (path : String) :
    ¬ (sent path).Carries host.settings.masterPassword := by
  rintro (hquery | ⟨found, v, hfound, hv, hpassword⟩)
  · cases hquery
  · rw [entries_sent] at hfound
    obtain rfl := Except.ok.inj hfound
    obtain rfl : Value.text "guess" = v := Option.some.inj hv
    rcases hpassword with htext | ⟨-, hread⟩
    · exact absurd (Value.text.inj htext) (by decide)
    · exact absurd (Except.ok.inj hread) (by decide)

/-- The guess is made where workflows are saved and, an hour later, where tasks are run. -/
def requests : List (Moment × Request) :=
  [(⟨2024, 3, 15, 14, 30, 0, 0⟩, sent "/save"),
    (⟨2024, 3, 15, 15, 30, 0, 0⟩, sent "/scheduled/run")]

end Guess

/-- The guess is read, and nothing comes of it. -/
theorem harmless_after_guess :
    (Guess.sent "/save").entries = .ok Guess.entries ∧
      (∀ workflows a,
        Archive.load (Guess.host.after Guess.bot Guess.requests).archive = (.done workflows, a) →
          ∀ w ∈ workflows, w.Unarmed) ∧
      Guess.bot.Untouched (Guess.host.after Guess.bot Guess.requests) := by
  have hremembered : ∀ workflows, Guess.bot.remembered = some workflows →
      ∀ w ∈ workflows, w.Sound ∧ w.Unarmed := by
    intro workflows h
    obtain rfl := Option.some.inj h
    have hreading : (Number.int 3).Writable := Number.writable_int (by decide)
    have hsettled := (Gauge.authored_workflow hreading rfl).settled
    refine List.forall_mem_singleton.mpr ⟨hsettled.sound, List.forall_mem_singleton.mpr ?_⟩
    rintro _ ⟨⟩
  have hheld : ∀ workflows notes,
      Archive.readFile Guess.bot.world.disk = .ok (workflows, notes) →
        ∀ w ∈ workflows, w.Unarmed := by
    rintro _ _ ⟨⟩ w hw
    exact absurd hw List.not_mem_nil
  have hrequests : ∀ x ∈ Guess.requests,
      x.2.IsManagement ∧ ¬ x.2.Carries Guess.host.settings.masterPassword := by
    simp only [Guess.requests, List.forall_mem_cons]
    exact ⟨⟨⟨.saveWorkflow, by decide, rfl⟩, Guess.not_carries_sent _⟩,
      ⟨⟨.runTask, by decide, rfl⟩, Guess.not_carries_sent _⟩, List.forall_mem_nil _⟩
  have hset : Guess.host.settings.masterPassword ≠ "" := by decide
  obtain ⟨hloaded, -, huntouched⟩ := harmless_after hset hremembered hheld hrequests
  exact ⟨Guess.entries_sent _, hloaded, huntouched⟩

end Service

end ChatFlow
