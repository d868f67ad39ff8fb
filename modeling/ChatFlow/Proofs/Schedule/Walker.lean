import ChatFlow.Proofs.Files
import ChatFlow.Proofs.Schedule.Commands
import ChatFlow.Proofs.Walk.Conduct

/-!
# The usual way to run a task is orderly

A workflow that is walked changes what it may change of the world, and stored values go to files of
their own: neither the agenda nor its file is among these.
-/

namespace ChatFlow.Scheduler

/-- What leaves the clock and the file of tasks alone. -/
def undisturbing : Conduct where
  leads v w := w.now = v.now ∧ w.disk.read Agenda.file = v.disk.read Agenda.file
  hangs := True
  refl _ := ⟨rfl, rfl⟩
  trans h h' := ⟨h'.1.trans h.1, h'.2.trans h.2⟩

theorem frees_undisturbing (p : Platform) : undisturbing.Frees p where
  context _ _ := ⟨rfl, rfl⟩
  dice _ _ := ⟨rfl, rfl⟩
  patterns _ _ := ⟨rfl, rfl⟩
  network _ _ _ := ⟨rfl, rfl⟩
  sleeps _ _ := ⟨rfl, rfl⟩
  log _ _ := ⟨rfl, rfl⟩
  disk w collection := by
    refine ⟨rfl, Disk.read_congr (Store.get?_save_of_ne w.store collection w.disk ?_ ?_)⟩
    · cases collection <;> decide
    · cases collection <;> decide
  calls _ _ := ⟨rfl, rfl⟩
  hangs _ _ _ := trivial
  store _ _ := ⟨rfl, rfl⟩

theorem stays_inWorld {α : Type} {act : Act World α} (h : act.Keeps undisturbing) (bot : Bot) :
    Stays bot (Bot.inWorld act bot).2 := by
  obtain ⟨⟨hnow, hfile⟩, -⟩ := h bot.world
  exact ⟨rfl, hnow ▸ .refl _, hfile⟩

/-- **The usual way to run a task is orderly**, where finding its chat is. -/
theorem orderly_walker (settings : Settings) {chatOf : Task → Act Bot Surface}
    (h : ∀ t bot, Stays bot (chatOf t bot).2) : Orderly (walker settings chatOf) := by
  intro t w bot
  have hchat := h t bot
  unfold walker
  rw [Act.run_bind]
  rcases hfound : chatOf t bot with ⟨surface | f | _, s⟩ <;> rw [hfound] at hchat
  · refine hchat.trans ?_
    dsimp only
    rw [Act.run_bind_return]
    have hfree : undisturbing.Frees surface.platform := frees_undisturbing surface.platform
    -- a scheduled run is the walk that the clock enters
    exact stays_inWorld (hfree.entryRun .clock w) s
  · exact hchat
  · exact hchat

end ChatFlow.Scheduler
