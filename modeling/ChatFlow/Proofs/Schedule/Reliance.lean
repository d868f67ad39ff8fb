import ChatFlow.Proofs.Schedule.Walker
import ChatFlow.Proofs.Workflow.Requests

/-!
# What a scheduler can rely on

A task is run with the workflow that the archive loads for it. Nothing that a scheduler does changes
what is loaded, as long as the workflows it runs do not.

* `Bot.workflows?` — the workflows at hand;
* `Reliable` — **an act that ends and leaves the agenda and the workflows alone**, and
  `reliable_walker` — the usual way to run a task is such an act;
* `Dependable` — the same of a way to run workflows, where nothing is asked of the clock;
* `workflows?_after` — **commands leave the workflows at hand**.
-/

namespace ChatFlow

/-! ## The workflows at hand -/

/-- **What the archive would load.** -/
def Bot.workflows? (bot : Bot) : Outcome (List Workflow) := (Archive.load bot.archive).1

theorem Bot.workflows?_congr {s t : Bot}
    (hentry : t.world.disk.entries.get? Archive.file = s.world.disk.entries.get? Archive.file)
    (hremembered : t.remembered = s.remembered) (hstamp : t.stamp = s.stamp) :
    t.workflows? = s.workflows? :=
  Archive.load_congr hentry hremembered hstamp

namespace Scheduler

/-! ## Acts that can be relied on -/

/-- **An act that can be relied on**: it ends, and leaves the agenda and the workflows alone. -/
structure Reliable {α : Type} (act : Act Bot α) : Prop where
  /-- the agenda is left alone -/
  stays (bot : Bot) : Stays bot (act bot).2
  /-- it does not hang -/
  ends (bot : Bot) : (act bot).1 ≠ .hung
  /-- the same workflows are at hand -/
  workflows (bot : Bot) : (act bot).2.workflows? = bot.workflows?

/-- What leaves the file of workflows alone, and hangs only where the platform does. -/
def sparing (p : Platform) : Conduct where
  leads v w := w.disk.entries.get? Archive.file = v.disk.entries.get? Archive.file
  hangs := ¬ p.Answers
  refl _ := rfl
  trans h h' := h'.trans h

theorem frees_sparing (p : Platform) : (sparing p).Frees p where
  context _ _ := rfl
  dice _ _ := rfl
  patterns _ _ := rfl
  network _ _ _ := rfl
  sleeps _ _ := rfl
  log _ _ := rfl
  disk w collection := by
    refine Store.get?_save_of_ne w.store collection w.disk ?_ ?_
    · cases collection <;> decide
    · cases collection <;> decide
  calls _ _ := rfl
  hangs before call hr ha := ha before call hr
  store _ _ := rfl

section

variable {α β : Type} {act : Act Bot α}

theorem Reliable.pure (a : α) : Reliable (Pure.pure a : Act Bot α) :=
  ⟨fun bot => .refl bot, fun _ => nofun, fun _ => rfl⟩

/-- One act after another can be relied on, if both can. -/
theorem Reliable.bind {next : α → Act Bot β} (h : Reliable act)
    (hnext : ∀ {s a t}, act s = (.done a, t) → Reliable (next a)) : Reliable (act >>= next) := by
  constructor
  · intro bot
    exact Act.leads_bind (R := Stays) Stays.trans (h.stays bot) fun hrun => (hnext hrun).stays _
  · intro bot
    have hends := h.ends bot
    rw [Act.run_bind]
    rcases hrun : act bot with ⟨a | f | _, t⟩ <;> rw [hrun] at hends
    · exact (hnext hrun).ends t
    · exact nofun
    · exact absurd rfl hends
  · intro bot
    have htrans {s t u : Bot} (h : t.workflows? = s.workflows?)
        (h' : u.workflows? = t.workflows?) : u.workflows? = s.workflows? := h'.trans h
    exact Act.leads_bind (R := fun s t => t.workflows? = s.workflows?) htrans (h.workflows bot)
      fun hrun => (hnext hrun).workflows _

theorem reliable_inWorld {act : Act World α} {p : Platform} (hanswers : p.Answers)
    (hstays : act.Keeps undisturbing) (h : act.Keeps (sparing p)) :
    Reliable (Bot.inWorld act) where
  stays bot := stays_inWorld hstays bot
  ends bot hhung := (h bot.world).2 hhung hanswers
  workflows bot := Bot.workflows?_congr (h bot.world).1 rfl rfl

end

/-- **The usual way to run a task can be relied on**, where finding its chat can, and the chat
answers. -/
theorem reliable_walker (settings : Settings) {chatOf : Task → Act Bot Surface}
    (hchat : ∀ t, Reliable (chatOf t))
    (hanswers : ∀ {t bot surface s}, chatOf t bot = (.done surface, s) → surface.platform.Answers)
    (t : Task) (w : Workflow) : Reliable (walker settings chatOf t w) := by
  refine (hchat t).bind fun {_ surface _} hfound => ?_
  -- a scheduled run is the walk that the clock enters
  have hwalk : Reliable (Bot.inWorld (Walk.runScheduled ⟨⟨t.event, ""⟩, surface, settings⟩ w)) :=
    reliable_inWorld (hanswers hfound)
      ((frees_undisturbing surface.platform).entryRun .clock w)
      ((frees_sparing surface.platform).entryRun .clock w)
  exact hwalk.bind fun _ => .pure ()

theorem reliable_some {runner : Runner} (hr : ∀ t w, Reliable (runner t w)) :
    ∀ r, some runner = some r → ∀ t w, Reliable (r t w) := by
  rintro r h
  obtain rfl := Option.some.inj h
  exact hr

/-- What can be relied on is orderly. -/
theorem orderly_of_reliable {runner : Option Runner}
    (hr : ∀ r, runner = some r → ∀ t w, Reliable (r t w)) : ∀ r, runner = some r → Orderly r :=
  fun r h t w => (hr r h t w).stays

/-- **A way to run workflows that can be depended on**: it ends, and leaves the agenda and the
workflows alone, whatever becomes of the clock. -/
structure Dependable (runner : Option Runner) : Prop where
  /-- the agenda is left to the scheduler -/
  discreet : Discreet runner
  /-- no workflow hangs -/
  ends {r : Runner} (h : runner = some r) (t : Task) (w : Workflow) (bot : Bot) :
    (r t w bot).1 ≠ .hung
  /-- the same workflows are at hand -/
  workflows {r : Runner} (h : runner = some r) (t : Task) (w : Workflow) (bot : Bot) :
    (r t w bot).2.workflows? = bot.workflows?

/-- What can be relied on can be depended on. -/
theorem dependable_of_reliable {runner : Option Runner}
    (hr : ∀ r, runner = some r → ∀ t w, Reliable (r t w)) : Dependable runner where
  discreet := discreet_of_orderly (orderly_of_reliable hr)
  ends h t w bot := (hr _ h t w).ends bot
  workflows h t w bot := (hr _ h t w).workflows bot

/-! ## The workflows stay at hand -/

/-- An agenda that is written leaves the workflows alone. -/
theorem workflows?_keep (bot : Bot) : (keep bot).2.workflows? = bot.workflows? := by
  have hsame : (bot.agenda.save bot.world.disk).2.entries.get? Archive.file =
      bot.world.disk.entries.get? Archive.file :=
    bot.agenda.get?_save_of_ne bot.world.disk (by decide) (by decide)
  unfold keep
  split <;> next hsave =>
    rw [hsave] at hsame
    exact Bot.workflows?_congr hsame rfl rfl

/-- A workflow looked up leaves them at hand. -/
theorem workflows?_inArchive (id : String) (bot : Bot) :
    (Bot.inArchive (Archive.get id) bot).2.workflows? = bot.workflows? := by
  have hget : (Archive.get id bot.archive).2 = (Archive.load bot.archive).2 := by
    rw [Archive.get, Act.run_bind_return]
  rw [Bot.inArchive, Act.run_inside, hget]
  exact Archive.load_load bot.archive

section

variable {runner : Option Runner} (hr : Dependable runner)

include hr

theorem allows_workflows : Allows (fun s t => t.workflows? = s.workflows?) runner where
  trans h h' := h'.trans h
  lookup := workflows?_inArchive
  runs h t w bot := hr.workflows h t w bot
  note _ _ := Bot.workflows?_congr rfl rfl rfl

theorem workflows?_execute (b : Booking) (bot : Bot) :
    (execute runner b bot).2.workflows? = bot.workflows? := by
  rcases hentered : entered? runner b bot with _ | s
  · exact (idle_execute hentered).2 (allows_workflows hr)
  · obtain ⟨t, hsame, rfl⟩ := (allows_workflows hr).exists_of_entered? hentered
    rw [run_execute hentered, run_keep_return, workflows?_keep]
    exact hsame

theorem workflows?_checkNext (now : Moment) (left : Nat) (bot : Bot) :
    (checkNext runner now left bot).2.workflows? = bot.workflows? :=
  round_keeps (P := fun s => s.workflows? = bot.workflows?) (fun _ h => h)
    (fun _ h _ => (workflows?_execute hr _ _).trans h) left rfl fun _ _ => trivial

end

/-- **A command whose workflows can be relied on.** -/
def Command.Reliable : Command → Prop
  | .check runner => ∀ r, runner = some r → ∀ t w, Scheduler.Reliable (r t w)
  | .runNow runner _ => ∀ r, runner = some r → ∀ t w, Scheduler.Reliable (r t w)
  | _ => True

/-- What is written leaves the workflows alone. -/
theorem workflows?_changed {α : Type} (f : Agenda → Agenda) (a : α) (bot : Bot) :
    ((change f >>= fun _ => keep >>= fun _ => pure a) bot).2.workflows? = bot.workflows? := by
  have hchange : change f bot = (.done (), { bot with agenda := f bot.agenda }) := rfl
  rw [Act.run_bind_done hchange, run_keep_return]
  exact workflows?_keep { bot with agenda := f bot.agenda }

theorem workflows?_command {c : Command} (h : c.Reliable) (s : Bot) :
    (c.after s).workflows? = s.workflows? := by
  cases c with
  | check runner => exact workflows?_checkNext (dependable_of_reliable h) s.world.now _ (begun s)
  | runNow runner id =>
    change (runNow runner id s).2.workflows? = s.workflows?
    rcases hb : s.agenda.find? id with _ | b
    · rw [run_runNow_none runner hb]
    · rw [run_runNow runner hb]
      exact workflows?_execute (dependable_of_reliable h) b s
  | toggle id =>
    change (toggle id s).2.workflows? = s.workflows?
    rcases hb : s.agenda.find? id with _ | b
    · rw [run_toggle_none hb]
    · rw [toggle, Act.run_bind_done (hb ▸ run_find? id)]
      exact workflows?_changed _ _ s
  | remove id =>
    change (remove id s).2.workflows? = s.workflows?
    rcases hb : s.agenda.find? id with _ | b
    · rw [run_remove_none hb]
    · rw [remove, Act.run_bind_done (hb ▸ run_find? id)]
      exact workflows?_changed _ _ s
  | add data =>
    change (add data s).2.workflows? = s.workflows?
    rcases haccept : Task.accept data with f | task
    · rw [run_add_refused s haccept]
    · rw [add, Act.run_bind_done (Act.run_of_ok haccept s)]
      exact workflows?_changed _ _ s
  | reopen =>
    change (reopen s).2.workflows? = s.workflows?
    unfold reopen
    split <;> exact Bot.workflows?_congr rfl rfl rfl
  | wait moment => exact Bot.workflows?_congr rfl rfl rfl

/-- **Commands leave the workflows at hand.** -/
theorem workflows?_after {cs : List Command} (h : ∀ c ∈ cs, c.Reliable) (s : Bot) :
    (after s cs).workflows? = s.workflows? := by
  induction cs generalizing s with
  | nil => rfl
  | cons c cs ih =>
    rw [List.forall_mem_cons] at h
    exact (ih h.2 (c.after s)).trans (workflows?_command h.1 s)

end Scheduler

end ChatFlow
