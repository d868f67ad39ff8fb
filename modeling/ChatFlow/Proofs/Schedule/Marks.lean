import ChatFlow.Proofs.Schedule.Spacing

/-!
# What a scheduler says of a day

A run is entered when the workflow has ended, and nothing else is. So a scheduler says of a task
that it ran on a day only if an execution of it ended on that day, or if it was told so before. This
holds whether the agenda can be written or not: what is read anew was said at some time.

* `Fair` — commands in the course of time, where a write may fail;
* `Unmarked` — **neither the agenda nor its file says of an id that it ran on a day**;
* `Unmarked.command`, `Unmarked.after` — an id stays unmarked while no execution of it ends on that
  day.
-/

namespace ChatFlow

namespace Task

variable {t : Task} {last day : Moment}

theorem ranOn_of_lastRun (h : t.lastRun = some last.isoText) (hlast : last.isValid = true) :
    t.ranOn day = last.sameDate day := by
  rw [ranOn, lastMoment?_eq h hlast]

end Task

/-! ## Agendas -/

namespace Agenda

/-- **An agenda does not say of an id** that it ran on a day. -/
def Unmarked (a : Agenda) (id : String) (day : Moment) : Prop :=
  ∀ b, a.find? id = some b → b.task.ranOn day = false

section

variable {a : Agenda} {id other : String} {day : Moment} {t : Task} {number : Nat} {f : Task → Task}

theorem Unmarked.book (h : a.Unmarked id day) (ht : t.id = id → t.ranOn day = false) :
    (a.book t).Unmarked id day := by
  intro b hb
  rw [find?_book] at hb
  split at hb
  · next hid =>
    obtain rfl := Option.some.inj hb
    exact ht hid
  · exact h b hb

theorem Unmarked.cancel (h : a.Unmarked id day) (hkeys : a.bookings.keys.Nodup) :
    (a.cancel other).Unmarked id day := by
  intro b hb
  rw [find?_cancel hkeys] at hb
  split at hb
  · cases hb
  · exact h b hb

theorem Unmarked.change (h : a.Unmarked id day)
    (hf : ∀ b, a.find? id = some b → b.number = number → (f b.task).ranOn day = false) :
    (a.change number f).Unmarked id day := by
  intro c hc
  obtain ⟨b, hb, ⟨hnumber, htask⟩ | rfl⟩ := exists_of_find?_change hc
  · exact htask ▸ hf b hb hnumber
  · exact h c hb

/-- An agenda with the tasks of another says the same of them. -/
theorem Unmarked.of_tasks (h : a.Unmarked id day) (ha : a.Sound) {loaded : Agenda}
    (hloaded : loaded.Sound) (htasks : loaded.tasks = a.tasks) : loaded.Unmarked id day := by
  intro b hb
  obtain ⟨c, hc, htask⟩ := ha.exists_find? hloaded htasks hb
  exact htask ▸ h c hc

end

end Agenda

namespace Scheduler

/-! ## Commands in the course of time -/

/-- **A command in the course of time**: workflows are run in an orderly way, and the clock is not
turned back. -/
def Command.Fair (bot : Bot) : Command → Prop
  | .check runner => ∀ r, runner = some r → Orderly r
  | .runNow runner _ => ∀ r, runner = some r → Orderly r
  | .wait moment => bot.world.now.Reaches moment
  | _ => True

/-- A row of commands in the course of time. -/
def Fair (bot : Bot) : List Command → Prop
  | [] => True
  | c :: rest => c.Fair bot ∧ Fair (c.after bot) rest

section

variable {s t bot : Bot} {c : Command} {cs rest : List Command} {a : Agenda}

theorem Writes.steady (h : Writes a s.world t) (hs : Steady s) (ha : a.Sound) : Steady t :=
  ⟨h.clock.symm ▸ hs.clock, h.agenda.symm ▸ ha⟩

/-- **A scheduler keeps its wits about it.** -/
theorem Steady.command (hs : Steady s) (h : c.Fair s) : Steady (c.after s) := by
  cases c with
  | check runner => exact (runs_check hs h).proceeds.steady hs
  | runNow runner id => exact (runs_runNow hs h id).proceeds.steady hs
  | toggle id =>
    change Steady (toggle id s).2
    rcases hb : s.agenda.find? id with _ | b
    · rwa [run_toggle_none hb]
    · exact (writes_toggle hb).steady hs (hs.sound.change b.number fun _ => rfl)
  | remove id =>
    change Steady (remove id s).2
    rcases hb : s.agenda.find? id with _ | b
    · rwa [run_remove_none hb]
    · exact (writes_remove hb).steady hs (hs.sound.cancel id)
  | add data =>
    change Steady (add data s).2
    rcases haccept : Task.accept data with f | task
    · rwa [run_add_refused s haccept]
    · exact (writes_add s haccept).steady hs (hs.sound.book task)
  | reopen =>
    change Steady (reopen s).2
    rcases hload : Agenda.load s.world.disk with ⟨f | a, notes⟩
    · rw [run_reopen_failed hload]
      exact ⟨hs.clock, hs.sound⟩
    · obtain ⟨hagenda, hnow, -⟩ := run_reopen hload
      exact ⟨hnow.symm ▸ hs.clock, hagenda.symm ▸ (Agenda.sound_of_load hload).1⟩
  | wait moment => exact ⟨h.valid hs.clock, hs.sound⟩

theorem Steady.after (hs : Steady s) (h : Fair s cs) : Steady (after s cs) := by
  induction cs generalizing s with
  | nil => exact hs
  | cons c rest ih => exact ih (hs.command h.1) h.2

end

/-! ## A day without a mark -/

/-- **Neither the agenda nor its file says of an id** that it ran on a day. -/
structure Unmarked (id : String) (day : Moment) (bot : Bot) : Prop where
  /-- the agenda does not -/
  agenda : bot.agenda.Unmarked id day
  /-- nor does what would be read -/
  file {a : Agenda} {notes : List Note} (h : Agenda.load bot.world.disk = (.ok a, notes)) :
    a.Unmarked id day

section

variable {id : String} {day : Moment} {s t : Bot}

theorem Unmarked.congr (h : Unmarked id day s) (hbookings : t.agenda.bookings = s.agenda.bookings)
    (hfile : t.world.disk.read Agenda.file = s.world.disk.read Agenda.file) :
    Unmarked id day t where
  agenda b hb := h.agenda b (by rwa [Agenda.find?, ← hbookings])
  file hload := h.file (Agenda.load_congr hfile ▸ hload)

/-- **A write says nothing new**, whether it succeeds or not. -/
theorem Writes.unmarked {a : Agenda} (h : Writes a s.world t) (hs : a.Sound)
    (ha : a.Unmarked id day) (hmarks : Unmarked id day s) : Unmarked id day t where
  agenda := h.agenda.symm ▸ ha
  file {loaded notes} hload := by
    rcases h.file with hwritten | hsame
    · obtain ⟨found, hfound, htasks⟩ := hs.load_of_writtenOn hwritten
      rw [hfound] at hload
      obtain rfl := Except.ok.inj (congrArg Prod.fst hload)
      exact ha.of_tasks hs (Agenda.sound_of_load hfound).1 htasks
    · exact hmarks.file (Agenda.load_congr hsame ▸ hload)

/-! ## Executions -/

variable {runner : Option Runner}

/-- **An execution that ends on another day** leaves the day without a mark. -/
theorem Unmarked.execute (h : Unmarked id day s) (hr : ∀ r, runner = some r → Orderly r)
    (hs : Steady s) {b : Booking} (hb : s.agenda.find? b.task.id = some b)
    {asked : Option Moment} (hended : ∀ e ∈ executionOf runner asked b s, e.task.id = id →
      e.ended.sameDate day = false) : Unmarked id day (execute runner b s).2 := by
  rw [executionOf] at hended
  rcases hentered : entered? runner b s with _ | t
  · have hstays := (idle_execute hentered).2 (allows_stays hr)
    exact h.congr (congrArg Agenda.bookings hstays.agenda) hstays.file
  · obtain ⟨hagenda, hclock, hfile⟩ := enters_of_entered? hr hentered
    rw [hentered] at hended
    have hmarks : t.agenda.Unmarked id day := by
      rw [hagenda]
      refine h.agenda.change fun c hc hnumber => ?_
      -- only the booking that was executed has its number
      have hid := hs.sound.distinct hc hb hnumber
      rw [Task.ranOn_of_lastRun rfl (hclock.valid hs.clock)]
      exact hended _ List.mem_cons_self hid.symm
    have hsound : t.agenda.Sound := hagenda.symm ▸ hs.sound.change b.number fun _ => rfl
    exact (writes_execute hentered).unmarked hsound hmarks
      ⟨hmarks, fun hload => h.file (Agenda.load_congr hfile ▸ hload)⟩

/-- A round of executions that end on other days does so too. -/
theorem Unmarked.checkNext (hr : ∀ r, runner = some r → Orderly r) {start now : Moment}
    (left : Nat) (hs : InRound start s) (h : Unmarked id day s)
    (hended : ∀ e ∈ roundExecutions runner now left s, e.task.id = id →
      e.ended.sameDate day = false) : Unmarked id day (checkNext runner now left s).2 := by
  refine (round_keeps (P := fun t => InRound start t ∧ Unmarked id day t) ?_ ?_ left ⟨hs, h⟩
    hended).2
  · rintro bot b rest hround ⟨hin, hmarks⟩
    exact ⟨hin.tail hround, hmarks.congr rfl rfl⟩
  · rintro bot b rest hround ⟨hin, hmarks⟩ hkind
    have hpass : Unmarked id day (atRound bot rest) := hmarks.congr rfl rfl
    exact ⟨(hin.execute hr hround).1, hpass.execute hr (hin.tail hround).steady
      (hin.found (hround ▸ List.mem_cons_self)) hkind⟩

/-! ## Commands -/

/-- **A command whose executions end on other days** leaves the day without a mark, if it adds no
task under the id that has one. -/
theorem Unmarked.command (h : Unmarked id day s) (hs : Steady s) {c : Command} (hc : c.Fair s)
    (hadded : ∀ data t, c = .add data → Task.accept data = .ok t → t.id = id →
      t.ranOn day = false)
    (hended : ∀ e ∈ c.executions s, e.task.id = id → e.ended.sameDate day = false) :
    Unmarked id day (c.after s) := by
  cases c with
  | check runner =>
    have hbegun : Unmarked id day (begun s) := h.congr rfl rfl
    exact hbegun.checkNext hc _ (inRound_begun hs) hended
  | runNow runner other =>
    change Unmarked id day (runNow runner other s).2
    rw [Command.executions] at hended
    rcases hb : s.agenda.find? other with _ | b
    · rwa [run_runNow_none runner hb]
    · rw [hb] at hended
      rw [run_runNow runner hb]
      exact h.execute hc hs ((hs.sound.named hb).symm ▸ hb) hended
  | toggle other =>
    change Unmarked id day (toggle other s).2
    rcases hb : s.agenda.find? other with _ | b
    · rwa [run_toggle_none hb]
    · -- the switch says nothing of runs
      exact (writes_toggle hb).unmarked (hs.sound.change b.number fun _ => rfl)
        (h.agenda.change fun c hc _ => h.agenda c hc) h
  | remove other =>
    change Unmarked id day (remove other s).2
    rcases hb : s.agenda.find? other with _ | b
    · rwa [run_remove_none hb]
    · exact (writes_remove hb).unmarked (hs.sound.cancel other)
        (h.agenda.cancel hs.sound.keys) h
  | add data =>
    change Unmarked id day (add data s).2
    rcases haccept : Task.accept data with f | task
    · rwa [run_add_refused s haccept]
    · exact (writes_add s haccept).unmarked (hs.sound.book task)
        (h.agenda.book (hadded data task rfl haccept)) h
  | reopen =>
    change Unmarked id day (reopen s).2
    rcases hload : Agenda.load s.world.disk with ⟨f | a, notes⟩
    · rw [run_reopen_failed hload]
      exact h.congr rfl rfl
    · obtain ⟨hagenda, -, hdisk⟩ := run_reopen hload
      exact ⟨hagenda.symm ▸ h.file hload, fun hread => h.file (hdisk ▸ hread)⟩
  | wait moment => exact h.congr rfl rfl

/-- **A day stays without a mark** while no execution ends on it. -/
theorem Unmarked.after (h : Unmarked id day s) (hs : Steady s) {cs : List Command} (hcs : Fair s cs)
    (hadded : ∀ data t, .add data ∈ cs → Task.accept data = .ok t → t.id = id →
      t.ranOn day = false)
    (hended : ∀ e ∈ executions s cs, e.task.id = id → e.ended.sameDate day = false) :
    Unmarked id day (after s cs) := by
  induction cs generalizing s with
  | nil => exact h
  | cons c cs ih =>
    obtain ⟨hfirst, hrest⟩ := List.forall_mem_append.mp hended
    refine ih ?_ (hs.command hcs.1) hcs.2 (fun data t hmem => ?_) hrest
    · exact h.command hs hcs.1 (fun data t hc => hadded data t (hc ▸ List.mem_cons_self)) hfirst
    · exact hadded data t (List.mem_cons_of_mem c hmem)

end

end Scheduler

end ChatFlow
