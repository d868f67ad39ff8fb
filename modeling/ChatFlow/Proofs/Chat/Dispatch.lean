import ChatFlow.Chat.Dispatch
import ChatFlow.Proofs.Engine.Triggers
import ChatFlow.Proofs.Workflow.Requests

/-!
# Messages offered to workflows

How a message is handled, told by the workflows that are run on it: each of them is a trial, made on
the trimmed text in the state that the trials before it have left.

* `Dispatch.trials` — the trials of a message;
* `Dispatch.handle_congr` — **nothing else is run**: any two ways to run a workflow that agree on the
  trials handle the message alike;
* `Dispatch.text_of_trials` — a trial is made on a text that is not the clock's;
* `Dispatch.clock_silent` — **the chat fires no trigger of the clock**.
-/

namespace ChatFlow

/-- The bot with notes added. -/
def Bot.noted (ns : List Note) (bot : Bot) : Bot :=
  { bot with world := { bot.world with log := bot.world.log ++ ns } }

theorem Bot.noted_nil (bot : Bot) : bot.noted [] = bot := by
  rw [noted, List.append_nil]

namespace Dispatch

/-! ## Trials -/

/-- **A trial**: a workflow run on a text. -/
structure Trial where
  /-- the workflow -/
  workflow : Workflow
  /-- the text -/
  text : String
  /-- the bot as it was then -/
  bot : Bot

/-- The trials of a text that is offered to workflows in order. -/
def trialsOf (execute : Executor) (text : String) : List Workflow → Bot → List Trial
  | [], _ => []
  | w :: rest, bot =>
    if w.enabled then
      ⟨w, text, bot⟩ :: match offer execute text w bot with
        | (.done matched, bot) =>
          if matched && w.stopPropagation then [] else trialsOf execute text rest bot
        | _ => []
    else trialsOf execute text rest bot

/-- **The trials of a message**, in order. -/
def trials (settings : Settings) (execute : Executor) (e : Event) (bot : Bot) : List Trial :=
  let text := trim e.rawMessage
  if !settings.enableWorkflow.present then []
  else if text = "" then []
  else if Trigger.sentinels.contains text then []
  else match Bot.inArchive Archive.load bot with
    | (.done workflows, bot) => trialsOf execute text workflows bot
    | _ => []

/-- **Whether a message is offered at all**: workflows are switched on, and its text is neither blank
nor the clock's. -/
def Heard (settings : Settings) (e : Event) : Prop :=
  settings.enableWorkflow.present = true ∧ trim e.rawMessage ≠ "" ∧
    trim e.rawMessage ∉ Trigger.sentinels

/-- What is noted of a message that is not offered: that its text is the clock's. -/
def refusal (settings : Settings) (e : Event) : List Note :=
  if settings.enableWorkflow.present && Trigger.sentinels.contains (trim e.rawMessage) then
    [.sentinelRejected]
  else []

section

variable {settings : Settings} {e : Event}

theorem handle_of_heard (h : Heard settings e) (execute : Executor) :
    handle settings execute e =
      Bot.inArchive Archive.load >>= offerAll execute (trim e.rawMessage) := by
  obtain ⟨hon, hblank, hsentinel⟩ := h
  simp [handle, hon, hblank, hsentinel]

theorem trials_of_heard (h : Heard settings e) (execute : Executor) (bot : Bot) :
    trials settings execute e bot = match Bot.inArchive Archive.load bot with
      | (.done workflows, bot) => trialsOf execute (trim e.rawMessage) workflows bot
      | _ => [] := by
  obtain ⟨hon, hblank, hsentinel⟩ := h
  simp [trials, hon, hblank, hsentinel]

/-- **A message that is not offered** is answered with no, and noted at most. -/
theorem handle_of_not_heard (h : ¬ Heard settings e) (execute : Executor) (bot : Bot) :
    handle settings execute e bot = (.done false, bot.noted (refusal settings e)) := by
  by_cases hon : settings.enableWorkflow.present = true
  · by_cases hblank : trim e.rawMessage = ""
    · have hnone : refusal settings e = [] := by
        rw [refusal, hblank]
        simp [Trigger.sentinels]
      rw [hnone, Bot.noted_nil]
      simp [handle, hon, hblank, Act.run_pure]
    · have hclock : trim e.rawMessage ∈ Trigger.sentinels := by
        by_contra hother
        exact h ⟨hon, hblank, hother⟩
      have hnote : refusal settings e = [.sentinelRejected] := by
        simp [refusal, hon, hclock]
      rw [hnote]
      simp only [handle, hon, hblank, hclock, List.contains_iff_mem, Bool.not_true,
        Bool.false_eq_true, if_false, if_true]
      rfl
  · have hnone : refusal settings e = [] := by simp [refusal, hon]
    rw [hnone, Bot.noted_nil]
    simp [handle, hon, Act.run_pure]

theorem trials_of_not_heard (h : ¬ Heard settings e) (execute : Executor) (bot : Bot) :
    trials settings execute e bot = [] := by
  by_cases hon : settings.enableWorkflow.present = true
  · by_cases hblank : trim e.rawMessage = ""
    · simp [trials, hon, hblank]
    · have hclock : trim e.rawMessage ∈ Trigger.sentinels := by
        by_contra hother
        exact h ⟨hon, hblank, hother⟩
      simp [trials, hon, hblank, hclock]
  · simp [trials, hon]

end

section

variable {execute execute' : Executor}

theorem offer_congr {text : String} {w : Workflow} {bot : Bot}
    (h : execute' w text bot = execute w text bot) :
    offer execute' text w bot = offer execute text w bot := by
  have hattempt : (execute' w text).attempt bot = (execute w text).attempt bot := by
    rw [Act.attempt, Act.attempt, h]
  rw [offer, offer, Act.run_bind, Act.run_bind, hattempt]

theorem offerAll_congr {text : String} {workflows : List Workflow} {bot : Bot}
    (h : ∀ t ∈ trialsOf execute text workflows bot,
      execute' t.workflow t.text t.bot = execute t.workflow t.text t.bot) :
    offerAll execute' text workflows bot = offerAll execute text workflows bot := by
  induction workflows generalizing bot with
  | nil => rfl
  | cons w rest ih =>
    rw [trialsOf] at h
    rw [offerAll, offerAll]
    split at h
    · next henabled =>
      rw [List.forall_mem_cons] at h
      rw [if_pos henabled, if_pos henabled, Act.run_bind, Act.run_bind, offer_congr h.1]
      rcases hoffer : offer execute text w bot with ⟨matched | f | _, next⟩
      · -- the rest is only offered to where propagation went on
        have hrest := h.2
        simp only [hoffer] at hrest ⊢
        split
        · rfl
        · next hstop =>
          rw [if_neg hstop] at hrest
          exact ih hrest
      · rfl
      · rfl
    · next hdisabled =>
      rw [if_neg hdisabled, if_neg hdisabled]
      exact ih h

/-- **Nothing but its trials is run on a message**: two ways to run a workflow that agree on them
handle the message alike. -/
theorem handle_congr {settings : Settings} {e : Event} {bot : Bot}
    (h : ∀ t ∈ trials settings execute e bot,
      execute' t.workflow t.text t.bot = execute t.workflow t.text t.bot) :
    handle settings execute' e bot = handle settings execute e bot := by
  by_cases hheard : Heard settings e
  · rw [trials_of_heard hheard] at h
    rw [handle_of_heard hheard, handle_of_heard hheard, Act.run_bind, Act.run_bind]
    rcases hload : Bot.inArchive Archive.load bot with ⟨workflows | f | _, next⟩
    · rw [hload] at h
      exact offerAll_congr h
    · rfl
    · rfl
  · rw [handle_of_not_heard hheard, handle_of_not_heard hheard]

theorem mem_of_mem_trialsOf {text : String} {workflows : List Workflow} {bot : Bot} :
    ∀ t ∈ trialsOf execute text workflows bot, t.text = text ∧ t.workflow ∈ workflows := by
  induction workflows generalizing bot with
  | nil => exact nofun
  | cons w rest ih =>
    have hrest {bot : Bot} : ∀ t ∈ trialsOf execute text rest bot,
        t.text = text ∧ t.workflow ∈ w :: rest := by
      intro t ht
      obtain ⟨htext, hmem⟩ := ih t ht
      exact ⟨htext, List.mem_cons_of_mem w hmem⟩
    rw [trialsOf]
    split
    · rw [List.forall_mem_cons]
      refine ⟨⟨rfl, List.mem_cons_self⟩, ?_⟩
      split
      · split
        · exact nofun
        · exact hrest
      · exact nofun
    · exact hrest

/-- **Where the trials of a message come from**: it is offered, and they are made on its trimmed text
with workflows that were loaded. -/
theorem exists_of_mem_trials {settings : Settings} {e : Event} {bot : Bot} {t : Trial}
    (h : t ∈ trials settings execute e bot) :
    Heard settings e ∧ t.text = trim e.rawMessage ∧
      ∃ workflows next, Archive.load bot.archive = (.done workflows, next) ∧
        t.workflow ∈ workflows := by
  by_cases hheard : Heard settings e
  · rw [trials_of_heard hheard, Bot.inArchive, Act.run_inside] at h
    rcases hload : Archive.load bot.archive with ⟨workflows | f | _, next⟩
    · rw [hload] at h
      obtain ⟨htext, hmem⟩ := mem_of_mem_trialsOf t h
      exact ⟨hheard, htext, workflows, next, rfl, hmem⟩
    · rw [hload] at h
      cases h
    · rw [hload] at h
      cases h
  · rw [trials_of_not_heard hheard] at h
    cases h

end

/-! ## Triggers of the clock -/

/-- The scene of a trial in the chat that the message came from. -/
def Trial.scene (settings : Settings) (surface : Surface) (e : Event) (t : Trial) : Scene :=
  ⟨⟨e, t.text⟩, surface, settings⟩

/-- **Whether the walk of a trial is from a trigger**: it departs from there. -/
def Trial.WalksFrom (settings : Settings) (surface : Surface) (e : Event) (t : Trial)
    (id : String) : Prop :=
  ∃ d after, Entry.message.departure (t.scene settings surface e) t.workflow t.bot.world =
    (.done (some d), after) ∧ d.trigger = some id

section

variable {settings : Settings} {surface : Surface} {e : Event}

/-- **A trial never walks from a trigger of the clock.** -/
theorem notMem_clockKinds_of_walksFrom {bot : Bot} {t : Trial}
    (hindexed : ∀ workflows, bot.remembered = some workflows →
      ∀ w ∈ workflows, w.indexed = .ok w)
    (ht : t ∈ trials settings (walker settings surface e) e bot) {id : String}
    (hwalk : t.WalksFrom settings surface e id) {n : Node} (hn : n ∈ t.workflow.nodes)
    (hid : n.id = id) {kind : String} (hkind : n.triggerKind? = some kind) :
    kind ∉ Trigger.clockKinds := by
  obtain ⟨⟨-, -, hclock⟩, htext, workflows, next, hload, hmem⟩ := exists_of_mem_trials ht
  obtain ⟨d, after, hdeparture, htrigger⟩ := hwalk
  obtain ⟨m, hm, hdm, p, before, captures, hparams, hfires⟩ :=
    Entry.exists_trigger_of_departure hdeparture
  have hw : t.workflow.indexed = .ok t.workflow := by
    refine Archive.forall_load hindexed (fun _ _ hread w hw => ?_) hload _ hmem
    obtain ⟨v, -, hv⟩ := Archive.exists_of_readFile hread w hw
    exact Workflow.indexed_of_load hv
  -- the node with the id of the trigger is the trigger itself
  obtain rfl : n = m := by
    refine Workflow.eq_of_id hw hn hm ?_
    rw [hdm] at htrigger
    rw [hid, Option.some.inj htrigger]
  obtain rfl : p.triggerType = kind := by
    rw [Node.triggerKind?, hparams] at hkind
    exact Option.some.inj hkind
  have hother : (t.scene settings surface e).occasion.text ∉ Trigger.sentinels := by
    rw [Trial.scene, htext]
    exact hclock
  exact Trigger.notMem_clockKinds_of_fires hother hfires

/-- **The chat fires no trigger of the clock.** A message with a text of the clock is answered with
no, runs nothing, and is noted at most; no other message has a walk from a trigger of the clock. -/
theorem clock_silent (settings : Settings) (surface : Surface) (e : Event) (bot : Bot)
    (hindexed : ∀ workflows, bot.remembered = some workflows →
      ∀ w ∈ workflows, w.indexed = .ok w) :
    (trim e.rawMessage ∈ Trigger.sentinels →
      trials settings (walker settings surface e) e bot = [] ∧
        ∃ notes, handle settings (walker settings surface e) e bot =
          (.done false, bot.noted notes)) ∧
      ∀ t ∈ trials settings (walker settings surface e) e bot, ∀ id,
        t.WalksFrom settings surface e id → ∀ n ∈ t.workflow.nodes, n.id = id →
          ∀ kind, n.triggerKind? = some kind → kind ∉ Trigger.clockKinds := by
  refine ⟨?_, ?_⟩
  · intro hclock
    have hnot : ¬ Heard settings e := fun h => h.2.2 hclock
    exact ⟨trials_of_not_heard hnot _ bot, _, handle_of_not_heard hnot _ bot⟩
  · intro t ht id hwalk n hn hid kind hkind
    exact notMem_clockKinds_of_walksFrom hindexed ht hwalk hn hid hkind

end

/-! ## A chime -/

namespace Chime

/-- A workflow that only the clock fires. -/
def document : Value :=
  .object [("id", .text "chime"), ("nodes", .list [
    .object [("id", .text "tick"), ("type", .text "trigger"),
      ("data", .object [("trigger_type", .text "timer"), ("trigger_content", .text "go")])]])]

/-- The trigger of the chime. -/
def tick : Node :=
  ⟨"tick", "trigger", Node.origin, Node.origin,
    [("trigger_type", .text "timer"), ("trigger_content", .text "go")],
    .trigger ⟨"timer", "go", "", []⟩⟩

/-- The chime as it is loaded. -/
def workflow : Workflow :=
  ⟨"chime", "untitled", "exact", "", true, false, [tick], [], ⟨[("tick", tick)], []⟩⟩

theorem load_document : Workflow.load document = .ok workflow := rfl

/-- A bot that remembers the chime and the loop. -/
def bot : Bot := { Bot.inWorldOf Loop.world with remembered := some [workflow, Loop.workflow] }

/-- Somebody said something in a private chat. -/
def spoken (text : String) : Event := ⟨"10001", none, "private", none, text, none, []⟩

/-- A surface whose platform takes every call. -/
def surface : Surface := ⟨Loop.willing, none⟩

theorem trim_go : trim " go " = "go" := by decide

theorem indexed_bot : ∀ workflows, bot.remembered = some workflows →
    ∀ w ∈ workflows, w.indexed = .ok w := by
  intro workflows h
  obtain rfl := Option.some.inj h
  simp only [List.forall_mem_cons]
  exact ⟨Workflow.indexed_of_load load_document, Workflow.indexed_of_load Loop.load_document,
    List.forall_mem_nil _⟩

/-- The chime lets the text pass, and the loop is tried next. -/
theorem mem_trials : (⟨Loop.workflow, "go", bot⟩ : Trial) ∈
    trials Settings.default (walker Settings.default surface (spoken " go ")) (spoken " go ")
      bot := by
  have hheard : Heard Settings.default (spoken " go ") := ⟨rfl, by decide, by decide⟩
  have hload : Bot.inArchive Archive.load bot = (.done [workflow, Loop.workflow], bot) := rfl
  have hoffer : offer (walker Settings.default surface (spoken " go ")) "go" workflow bot =
      (.done false, bot) := rfl
  rw [trials_of_heard hheard, hload]
  change _ ∈ trialsOf _ (trim " go ") [workflow, Loop.workflow] bot
  rw [trim_go, trialsOf, if_pos (show workflow.enabled = true from rfl), hoffer]
  exact List.mem_cons_of_mem _ List.mem_cons_self

/-- The loop walks from its own trigger. -/
theorem walksFrom_ask : (⟨Loop.workflow, "go", bot⟩ : Trial).WalksFrom Settings.default surface
    (spoken " go ") "ask" :=
  ⟨⟨some "ask", [], 0, ["ask"]⟩, bot.world, rfl, rfl⟩

end Chime

/-- A chime stays silent, whatever is said; a loop beside it is walked, from a trigger that is not
the clock's. -/
theorem clock_silent_chime :
    (∃ notes, handle Settings.default (walker Settings.default Chime.surface
        (Chime.spoken "__scheduled__")) (Chime.spoken "__scheduled__") Chime.bot =
          (.done false, Chime.bot.noted notes)) ∧
      (⟨Loop.workflow, "go", Chime.bot⟩ : Trial).WalksFrom Settings.default Chime.surface
        (Chime.spoken " go ") "ask" ∧
      "exact" ∉ Trigger.clockKinds := by
  refine ⟨?_, Chime.walksFrom_ask, ?_⟩
  · obtain ⟨hquiet, -⟩ := clock_silent Settings.default Chime.surface
      (Chime.spoken "__scheduled__") Chime.bot Chime.indexed_bot
    exact (hquiet (by decide)).2
  · obtain ⟨-, hclockless⟩ := clock_silent Settings.default Chime.surface
      (Chime.spoken " go ") Chime.bot Chime.indexed_bot
    exact hclockless _ Chime.mem_trials "ask" Chime.walksFrom_ask Loop.ask List.mem_cons_self rfl
      "exact" rfl

end Dispatch

end ChatFlow
