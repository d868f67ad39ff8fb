import ChatFlow.Proofs.Chat.Dispatch

/-!
# How far a message gets

A message goes through the workflows that take part, in stored order, until one of them matches and
stops propagation. What a run came to is all that counts: a fault is no match and stops nothing.

* `Dispatch.queue` — the trials of a row of workflows in which nothing stops propagation;
* `Dispatch.trialsOf_eq`, `Dispatch.run_offerAll` — **the trials that are made**, what they leave
  behind, and whether one of them stopped propagation, told by that row;
* `Dispatch.handle_eq_queue` — the same of a message.
-/

namespace ChatFlow.Dispatch

/-! ## Trials one after the other -/

/-- Whether a run matched. A fault is no match. -/
def isMatch : Outcome Bool → Bool
  | .done matched => matched
  | _ => false

/-- What is noted of a run: that it matched, or that it failed. -/
def remarks (w : Workflow) : Outcome Bool → List Note
  | .done true => [.workflowMatched w.id]
  | .failed _ => [.workflowFailed w.id]
  | _ => []

/-- **The bot when a workflow was tried on a text**: as its run leaves it, and noted. -/
def tried (execute : Executor) (text : String) (bot : Bot) (w : Workflow) : Bot :=
  let (ending, after) := execute w text bot
  after.noted (remarks w ending)

/-- **Whether a trial ends the offering**: its workflow matches and stops propagation. -/
def Trial.stops (execute : Executor) (t : Trial) : Bool :=
  isMatch (execute t.workflow t.text t.bot).1 && t.workflow.stopPropagation

/-- **The trials of a row of workflows**, each in the state that the one before it leaves, whether
any of them stops propagation or not. -/
def queue (execute : Executor) (text : String) : List Workflow → Bot → List Trial
  | [], _ => []
  | w :: rest, bot => ⟨w, text, bot⟩ :: queue execute text rest (tried execute text bot w)

/-- The items of a list up to and with the first one that passes a test. -/
def throughFirst {α : Type} (p : α → Bool) (l : List α) : List α :=
  l.takeWhile (fun a => !p a) ++ (l.find? p).toList

theorem throughFirst_cons {α : Type} (p : α → Bool) (a : α) (l : List α) :
    throughFirst p (a :: l) = if p a then [a] else a :: throughFirst p l := by
  cases h : p a <;> simp [throughFirst, h]

section

variable {execute : Executor} {text : String} {w : Workflow} {bot : Bot}

theorem map_workflow_queue (workflows : List Workflow) (bot : Bot) :
    (queue execute text workflows bot).map Trial.workflow = workflows := by
  induction workflows generalizing bot with
  | nil => rfl
  | cons w rest ih => rw [queue, List.map_cons, ih]

/-- A workflow that does not hang is offered the text, whatever becomes of it. -/
theorem run_offer (h : (execute w text bot).1 ≠ .hung) : offer execute text w bot =
    (.done (isMatch (execute w text bot).1), tried execute text bot w) := by
  rw [tried, offer]
  rcases hrun : execute w text bot with ⟨matched | f | _, after⟩ <;> rw [hrun] at h
  · have hattempt : (execute w text).attempt bot = (.done (.ok matched), after) := by
      rw [Act.attempt, hrun]
    rw [Act.run_bind_done hattempt]
    cases matched with
    | true => rfl
    | false => exact congrArg (Outcome.done false, ·) (Bot.noted_nil after).symm
  · have hattempt : (execute w text).attempt bot = (.done (.error f), after) := by
      rw [Act.attempt, hrun]
    exact Act.run_bind_done hattempt
  · exact absurd rfl h

variable (rest : List Workflow)

/-- A workflow that takes part is tried, and the others after it unless it ends the offering. -/
theorem trialsOf_cons (henabled : w.enabled = true) (h : (execute w text bot).1 ≠ .hung) :
    trialsOf execute text (w :: rest) bot = ⟨w, text, bot⟩ ::
      if Trial.stops execute ⟨w, text, bot⟩ then []
      else trialsOf execute text rest (tried execute text bot w) := by
  rw [trialsOf, if_pos henabled, run_offer h]
  rfl

theorem offerAll_cons (henabled : w.enabled = true) (h : (execute w text bot).1 ≠ .hung) :
    offerAll execute text (w :: rest) bot =
      if Trial.stops execute ⟨w, text, bot⟩ then (.done true, tried execute text bot w)
      else offerAll execute text rest (tried execute text bot w) := by
  rw [offerAll, if_pos henabled, Act.run_bind_done (run_offer h), Trial.stops]
  split <;> rfl

variable (hends : ∀ w bot, (execute w text bot).1 ≠ .hung)

include hends

/-- **The trials that are made** are those of the workflows that take part, through the first one
that ends the offering. -/
theorem trialsOf_eq (workflows : List Workflow) (bot : Bot) :
    trialsOf execute text workflows bot = throughFirst (Trial.stops execute)
      (queue execute text (workflows.filter Workflow.enabled) bot) := by
  induction workflows generalizing bot with
  | nil => rfl
  | cons w rest ih =>
    by_cases henabled : w.enabled = true
    · rw [List.filter_cons_of_pos henabled, queue, throughFirst_cons,
        trialsOf_cons rest henabled (hends w bot), ih]
      split <;> rfl
    · rw [List.filter_cons_of_neg henabled, trialsOf, if_neg henabled, ih]

/-- **What an offering comes to**: whether one of the trials ends it, and what those that are made
leave behind, one after the other. -/
theorem run_offerAll (workflows : List Workflow) (bot : Bot) :
    offerAll execute text workflows bot =
      (.done ((queue execute text (workflows.filter Workflow.enabled) bot).any
          (Trial.stops execute)),
        ((trialsOf execute text workflows bot).map Trial.workflow).foldl
          (tried execute text) bot) := by
  induction workflows generalizing bot with
  | nil => rfl
  | cons w rest ih =>
    by_cases henabled : w.enabled = true
    · rw [List.filter_cons_of_pos henabled, queue, List.any_cons,
        trialsOf_cons rest henabled (hends w bot), offerAll_cons rest henabled (hends w bot),
        List.map_cons, List.foldl_cons]
      cases hstops : Trial.stops execute ⟨w, text, bot⟩ with
      | true => rfl
      | false => exact ih (tried execute text bot w)
    · rw [List.filter_cons_of_neg henabled, trialsOf, offerAll, if_neg henabled, if_neg henabled,
        ih]

end

/-! ## Messages -/

/-- **A message goes through the workflows that take part, in stored order**, each of them once,
through the first one that matches and stops propagation. It is answered whether there is such a
workflow; the trials that are made leave behind what they do one after the other; and nothing else
is run. -/
theorem handle_eq_queue {settings : Settings} {e : Event} (hheard : Heard settings e)
    {bot loaded : Bot} {workflows : List Workflow}
    (hload : Bot.inArchive Archive.load bot = (.done workflows, loaded)) {execute : Executor}
    (hends : ∀ w s, (execute w (trim e.rawMessage) s).1 ≠ .hung) :
    let offered := queue execute (trim e.rawMessage) (workflows.filter Workflow.enabled) loaded
    let made := trials settings execute e bot
    offered.map Trial.workflow = workflows.filter Workflow.enabled ∧
      made = throughFirst (Trial.stops execute) offered ∧
      handle settings execute e bot = (.done (offered.any (Trial.stops execute)),
        (made.map Trial.workflow).foldl (tried execute (trim e.rawMessage)) loaded) ∧
      ∀ execute' : Executor, (∀ t ∈ made,
          execute' t.workflow t.text t.bot = execute t.workflow t.text t.bot) →
        handle settings execute' e bot = handle settings execute e bot := by
  intro offered made
  have hmade : made = trialsOf execute (trim e.rawMessage) workflows loaded := by
    rw [show made = trials settings execute e bot from rfl, trials_of_heard hheard, hload]
  refine ⟨map_workflow_queue _ _, ?_, ?_, fun execute' h => handle_congr h⟩
  · rw [hmade]
    exact trialsOf_eq hends workflows loaded
  · rw [handle_of_heard hheard, Act.run_bind_done hload, hmade]
    exact run_offerAll hends workflows loaded

/-! ## A bell -/

namespace Bell

/-- A workflow without nodes. -/
def workflow (id : String) (enabled stops : Bool) : Workflow :=
  ⟨id, id, "exact", "", enabled, stops, [], [], ⟨[], []⟩⟩

/-- The workflows of the bell: the first one fails, the second one does not take part, the third
one lets the message pass, the fourth one rings, and the last one would as well. -/
def workflows : List Workflow :=
  [workflow "torn" true true, workflow "still" false true, workflow "loud" true false,
    workflow "bell" true true, workflow "echo" true true]

/-- A bot that remembers them. -/
def bot : Bot := { Bot.inWorldOf Loop.world with remembered := some workflows }

/-- The names that are stored. -/
def names (s : Bot) : String := (s.world.store.globalValue "names" .null).textOrBlank

/-- A name stored behind them. -/
def named (name : String) (s : Bot) : Bot :=
  let store := s.world.store.setGlobal "names" (.text (names s ++ name ++ "."))
  { s with world := { s.world with store } }

/-- Each workflow stores its name. The first one fails then, and the others match. -/
def execute : Executor := fun w _ => do
  Act.change (named w.id)
  if w.id = "torn" then Act.fail .doubleRange else return true

theorem execute_ne_hung (w : Workflow) (text : String) (s : Bot) :
    (execute w text s).1 ≠ .hung := by
  have hrun : execute w text s =
      (if w.id = "torn" then Act.fail .doubleRange else pure true : Act Bot Bool) (named w.id s) :=
    rfl
  rw [hrun]
  split <;> nofun

theorem heard : Heard Settings.default (Chime.spoken " go ") := ⟨rfl, by decide, by decide⟩

end Bell

/-- The bell rings, and the echo does not. -/
theorem handle_eq_queue_bell :
    (trials Settings.default Bell.execute (Chime.spoken " go ") Bell.bot).map
        (fun t => t.workflow.id) = ["torn", "loud", "bell"] ∧
      ∃ after, handle Settings.default Bell.execute (Chime.spoken " go ") Bell.bot =
          (.done true, after) ∧
        Bell.names after = "torn.loud.bell." := by
  have hload : Bot.inArchive Archive.load Bell.bot = (.done Bell.workflows, Bell.bot) := rfl
  obtain ⟨-, hmade, hrun, -⟩ := handle_eq_queue Bell.heard hload
    fun w s => Bell.execute_ne_hung w _ s
  rw [hmade] at hrun ⊢
  exact ⟨by decide +kernel, _, hrun, by decide +kernel⟩

end ChatFlow.Dispatch
