import ChatFlow.Proofs.Json.Documents
import ChatFlow.Proofs.Schedule.Progress
import ChatFlow.Proofs.Schedule.Reliance

/-!
# Rounds come to their end

A round comes to every task, whatever becomes of the tasks before it: a workflow may be missing, be
switched off or fail, and the agenda may fail to be written. Only a task that cannot be looked at
ends the round.

* `Task.Lasting`, `Task.Untroubled` — what each task has to bring with it: its numbers can be
  written, and it can be told whether it is due;
* `Works` — a task whose workflow is at hand, takes part and does not fail;
* `startsOf` — **the executions that a round begins**;
* `execute_answers`, `Fit.execute` — an execution comes to its end and leaves the round fit;
* `round_reaches` — **what is due is executed in order, up to a task that cannot be looked at**;
* `checkAt_reaches`, `checkAt_reaches_all` — so does a check, and with nothing in its way it comes
  to all that is due;
* `checkAt_answers` — a check comes to its end, and everything that is due and works has run.
-/

namespace ChatFlow

/-! ## Tasks -/

namespace Task

/-- **A task that can be written.** A number of more than 4300 digits cannot. -/
structure Writable (t : Task) : Prop where
  /-- the interval can be written -/
  interval {n : Int} (h : t.intervalSeconds = some n) : (Number.int n).Writable
  /-- each weekday can -/
  weekdays {n : Int} (h : n ∈ t.weekdays) : (Number.int n).Writable
  /-- the number of runs can -/
  runCount : (Number.int t.runCount).Writable

theorem storable_optionalText (kind : Number → Prop) (o : Option String) :
    Json.Storable kind (Event.optionalText o) := by
  cases o with
  | none => exact .null
  | some s => exact .text s

theorem Writable.storable {t : Task} (h : t.Writable) :
    Json.Storable Number.Writable t.toValue := by
  have hinterval : Json.Storable Number.Writable
      (Value.orNull (t.intervalSeconds.map Value.int)) := by
    rcases hseconds : t.intervalSeconds with _ | n
    · exact .null
    · exact .number (h.interval hseconds)
  have hweekdays : Json.Storable Number.Writable (.list (t.weekdays.map Value.int)) :=
    .list (List.forall_mem_map.mpr fun _ hn => .number (h.weekdays hn))
  refine .object (by simp [toTable, Table.keys]) ?_
  simp only [toTable, List.forall_mem_cons]
  exact ⟨.text _, .text _, .text _, storable_optionalText _ _, hinterval, hweekdays, .text _,
    .text _, storable_optionalText _ _, .bool _, storable_optionalText _ _, .number h.runCount,
    .text _, List.forall_mem_nil _⟩

/-- **A task that can be written**, also when it has run once more. -/
structure Lasting (t : Task) : Prop extends t.Writable where
  /-- and then the number of runs is one more -/
  counted : (Number.int (t.runCount + 1)).Writable

theorem Lasting.ranAt {t : Task} (h : t.Lasting) (ran : String) : (t.ranAt ran).Writable :=
  ⟨h.interval, h.weekdays, h.counted⟩

end Task

/-- **An agenda of tasks that can be written** has a written form. -/
theorem Agenda.Sound.exists_write {a : Agenda} (h : a.Sound)
    (hwritable : ∀ {id b}, a.find? id = some b → b.task.Writable) :
    ∃ content, Json.write .stored a.toValue = .ok content := by
  refine Json.Storable.exists_write (.object ?_ ?_) .stored
  · have hkeys : Table.keys (a.bookings.map fun entry => (entry.1, entry.2.task.toValue)) =
        a.bookings.keys := List.map_map
    exact hkeys ▸ h.keys
  · refine List.forall_mem_map.mpr fun entry hentry => ?_
    exact (hwritable (Table.get?_of_mem h.keys hentry)).storable

namespace Scheduler

/-! ## Executions -/

/-- **A task whose workflow is at hand**, takes part and does not fail. -/
def Works (runner : Runner) (workflows : List Workflow) (t : Task) : Prop :=
  ∃ w, (workflows.find? fun w => w.id = t.workflowId) = some w ∧ w.enabled = true ∧
    ∀ bot, (runner t w bot).1 = .done ()

/-- What is written once a task has run can be written. -/
def Enterable (b : Booking) (bot : Bot) : Prop :=
  ∀ ran, ∃ content,
    Json.write .stored (bot.agenda.change b.number (Task.ranAt ran)).toValue = .ok content

/-- **An agenda that has a written form is kept**, or it is noted that it could not be. -/
theorem run_keep (bot : Bot) {content : String}
    (h : Json.write .stored bot.agenda.toValue = .ok content) : (keep bot).1 = .done () := by
  rcases hsave : bot.agenda.save bot.world.disk with ⟨f | notes, disk⟩
  · rw [Agenda.save, h] at hsave
    dsimp only at hsave
    split at hsave <;> cases hsave
  · rw [keep, hsave]

section

variable {runner : Option Runner} {workflows : List Workflow} {bot : Bot} {b : Booking}

/-- **A workflow that is run comes to its end**, and the task ran if it did not fail. -/
theorem perform_answers {r : Runner} (hr : Dependable (some r)) (w : Workflow)
    (hwritten : Enterable b bot) : ∃ ran, (perform r b w bot).1 = .done ran ∧
      ((r b.task w bot).1 = .done () → ran = true) := by
  have hagenda := (hr.discreet r rfl b.task w bot).agenda
  have hends := hr.ends rfl b.task w bot
  rcases hrun : r b.task w bot with ⟨_ | f | _, t⟩ <;> rw [hrun] at hagenda hends
  · obtain ⟨content, hcontent⟩ := hwritten t.world.now.isoText
    have hkeep := run_keep
      { t with agenda := t.agenda.change b.number (Task.ranAt t.world.now.isoText) }
      (hagenda.symm ▸ hcontent)
    refine ⟨true, ?_, fun _ => rfl⟩
    rw [run_perform_done hrun, Act.run_bind_return, hkeep]
    rfl
  · exact ⟨false, by rw [run_perform_failed hrun], nofun⟩
  · exact absurd rfl hends

/-- A workflow that is looked up. -/
theorem run_lookup (h : bot.workflows? = .done workflows) (id : String) :
    ∃ s, Bot.inArchive (Archive.get id) bot = (.done (workflows.find? fun w => w.id = id), s) ∧
      s.agenda = bot.agenda := by
  rcases hload : Archive.load bot.archive with ⟨ending, a⟩
  obtain rfl : ending = .done workflows := by rw [← h, Bot.workflows?, hload]
  have hget : Archive.get id bot.archive = (.done (workflows.find? fun w => w.id = id), a) :=
    Act.run_bind_done hload
  refine ⟨Bot.withArchive a bot, ?_, rfl⟩
  rw [Bot.inArchive, Act.run_inside, hget]

/-- **The execution of a booking comes to its end**, and a task that works has run. -/
theorem execute_answers (hr : Dependable runner) (h : bot.workflows? = .done workflows)
    (hwritten : Enterable b bot) : ∃ ran, (execute runner b bot).1 = .done ran ∧
      ∀ r, runner = some r → Works r workflows b.task → ran = true := by
  obtain ⟨s, hget, hagenda⟩ := run_lookup h b.task.workflowId
  have hwritten' : Enterable b s := by rwa [Enterable, hagenda]
  unfold execute
  rcases hfound : workflows.find? fun w => w.id = b.task.workflowId with _ | w <;>
    rw [hfound] at hget <;> rw [Act.run_bind_done hget]
  · refine ⟨false, rfl, ?_⟩
    rintro r - ⟨w, hw, -⟩
    exact absurd (hfound.symm.trans hw) nofun
  rcases runner with _ | r
  · exact ⟨false, rfl, nofun⟩
  dsimp only
  split
  · obtain ⟨ran, hending, hran⟩ := perform_answers hr w hwritten'
    refine ⟨ran, hending, ?_⟩
    rintro _ ⟨⟩ ⟨x, hx, -, hdone⟩
    obtain rfl := Option.some.inj (hfound.symm.trans hx)
    exact hran (hdone s)
  · next hdisabled =>
    refine ⟨false, rfl, ?_⟩
    rintro _ ⟨⟩ ⟨x, hx, henabled, -⟩
    obtain rfl := Option.some.inj (hfound.symm.trans hx)
    exact absurd henabled hdisabled

end

/-! ## Starts -/

/-- **An execution that is begun**: a booking that is due, and the state in which it has its
turn. -/
structure Start where
  /-- the booking as it was when the round began -/
  booking : Booking
  /-- the bot in its turn -/
  bot : Bot

/-- **The executions that a round begins**, in order. -/
def startsOf (runner : Option Runner) (now : Moment) : Nat → Bot → List Start
  | 0, _ => []
  | left + 1, bot =>
    match nextBooking bot with
    | (.done (some b), bot) =>
      match b.task.isDue now with
      | .error _ => []
      | .ok false => startsOf runner now left bot
      | .ok true => ⟨b, bot⟩ ::
        match execute runner b bot with
        | (.done _, bot) => startsOf runner now left bot
        | _ => []
    | _ => []

/-- **The executions that a check begins**, in order. -/
def starts (runner : Option Runner) (now : Moment) (bot : Bot) : List Start :=
  startsOf runner now (begun bot).agenda.round.length (begun bot)

/-- Whether the task ran. -/
def Start.ran (runner : Option Runner) (s : Start) : Bool :=
  match (execute runner s.booking s.bot).1 with
  | .done ran => ran
  | _ => false

/-- **An execution that comes to its end**: the booking stands on the agenda as it is, and its task
runs if it works. -/
structure Start.Answers (runner : Option Runner) (workflows : List Workflow) (s : Start) :
    Prop where
  /-- the booking stands on the agenda -/
  found : s.bot.agenda.find? s.booking.task.id = some s.booking
  /-- the execution comes to its end -/
  ends : ∃ ran, (execute runner s.booking s.bot).1 = .done ran
  /-- the task runs if it works -/
  works {r : Runner} (hr : runner = some r) (h : Works r workflows s.booking.task) :
    s.ran runner = true

section

variable (runner : Option Runner) {now : Moment} (left : Nat) {bot : Bot} {b : Booking}
  {rest : List Booking}

theorem startsOf_nil (now : Moment) (h : bot.agenda.round = []) :
    startsOf runner now left bot = [] := by
  cases left with
  | zero => rfl
  | succ left => rw [startsOf, nextBooking_nil h]

variable (h : bot.agenda.round = b :: rest)

include h

theorem startsOf_fault {f : Fault} (hdue : b.task.isDue now = .error f) :
    startsOf runner now (left + 1) bot = [] := by
  rw [startsOf, nextBooking_cons h]
  simp only [hdue]

theorem startsOf_idle (hdue : b.task.isDue now = .ok false) :
    startsOf runner now (left + 1) bot = startsOf runner now left (atRound bot rest) := by
  rw [startsOf, nextBooking_cons h]
  simp only [hdue]

theorem startsOf_due (hdue : b.task.isDue now = .ok true) :
    startsOf runner now (left + 1) bot = ⟨b, atRound bot rest⟩ ::
      match execute runner b (atRound bot rest) with
      | (.done _, bot) => startsOf runner now left bot
      | _ => [] := by
  rw [startsOf, nextBooking_cons h]
  simp only [hdue]

theorem startsOf_done (hdue : b.task.isDue now = .ok true) {ran : Bool} {s : Bot}
    (hrun : execute runner b (atRound bot rest) = (.done ran, s)) :
    startsOf runner now (left + 1) bot = ⟨b, atRound bot rest⟩ :: startsOf runner now left s := by
  rw [startsOf_due runner left h hdue, hrun]

end

/-- **What is begun is all that is run**: a way to run workflows that does the same in each start
makes the same round. -/
theorem checkNext_congr {runner other : Option Runner} {now : Moment} {left : Nat} {bot : Bot}
    (h : ∀ s ∈ startsOf runner now left bot,
      execute other s.booking s.bot = execute runner s.booking s.bot) :
    checkNext other now left bot = checkNext runner now left bot := by
  induction left generalizing bot with
  | zero => rfl
  | succ left ih =>
    rcases hround : bot.agenda.round with _ | ⟨b, rest⟩
    · rw [(checkNext_nil other (left + 1) now hround).1, (checkNext_nil runner _ now hround).1]
    rcases hdue : b.task.isDue now with f | due
    · rw [(checkNext_fault other left hround hdue).1, (checkNext_fault runner left hround hdue).1]
    cases due with
    | false =>
      rw [startsOf_idle runner left hround hdue] at h
      rw [(checkNext_idle other left hround hdue).1, (checkNext_idle runner left hround hdue).1]
      exact ih h
    | true =>
      rw [startsOf_due runner left hround hdue, List.forall_mem_cons] at h
      obtain ⟨hfirst, hothers⟩ := h
      rw [(checkNext_due other left hround hdue).1, (checkNext_due runner left hround hdue).1,
        Act.run_bind, Act.run_bind, hfirst]
      rcases hrun : execute runner b (atRound bot rest) with ⟨ran | f | _, s⟩
      · rw [hrun] at hothers
        dsimp only
        rw [Act.run_bind_return, Act.run_bind_return, ih hothers]
      · rfl
      · rfl

/-! ## Rounds -/

/-- **What a round finds due**: of the bookings before the first one that cannot be looked at. -/
def reached (now : Moment) (bookings : List Booking) : List Booking :=
  (bookings.takeWhile fun b => !b.task.zoned).filter fun b => b.task.comesDue now

section

variable {b : Booking} {rest : List Booking} (now : Moment)

theorem reached_of_zoned (h : b.task.zoned = true) : reached now (b :: rest) = [] := by
  rw [reached, List.takeWhile_cons, h]
  rfl

theorem reached_cons (h : b.task.zoned = false) : reached now (b :: rest) =
    if b.task.comesDue now then b :: reached now rest else reached now rest := by
  rw [reached, List.takeWhile_cons, h]
  exact List.filter_cons

/-- All that is due is found due, where all can be looked at. -/
theorem reached_eq_filter {bookings : List Booking}
    (h : ∀ b ∈ bookings, b.task.zoned = false) :
    reached now bookings = bookings.filter fun b => b.task.comesDue now := by
  rw [reached, List.takeWhile_eq_self_iff.mpr fun b hb => by rw [h b hb]; rfl]

end

/-- **What a round needs to come to its end.** -/
structure Fit (workflows : List Workflow) (bot : Bot) : Prop where
  /-- the workflows are at hand -/
  workflows : bot.workflows? = .done workflows
  /-- the tasks can be written -/
  writable {id : String} {c : Booking} (hc : bot.agenda.find? id = some c) : c.task.Writable
  /-- those that are left can be written when they have run -/
  left {c : Booking} (hc : c ∈ bot.agenda.round) : c.task.Lasting

section

variable {workflows : List Workflow} {bot : Bot} {b : Booking} {now : Moment} {rest : List Booking}

theorem Fit.tail (h : Fit workflows bot) (hround : bot.agenda.round = b :: rest) :
    Fit workflows (atRound bot rest) where
  workflows := h.workflows
  writable hc := h.writable hc
  left hc := h.left (hround ▸ List.mem_cons_of_mem b hc)

/-- The tasks can be written when one of them has run. -/
theorem Fit.writable_change (h : Fit workflows bot) (hs : bot.agenda.Sound)
    (hb : bot.agenda.find? b.task.id = some b) (hran : b.task.Lasting) (ran : String)
    {id : String} {c : Booking}
    (hc : (bot.agenda.change b.number (Task.ranAt ran)).find? id = some c) : c.task.Writable := by
  obtain ⟨a, ha, ⟨hnumber, htask⟩ | rfl⟩ := Agenda.exists_of_find?_change hc
  · rw [hs.distinct ha hb hnumber, hb] at ha
    obtain rfl := Option.some.inj ha
    exact htask ▸ hran.ranAt ran
  · exact h.writable ha

variable {runner : Option Runner} (hr : Dependable runner)

include hr

/-- **An execution comes to its end and leaves the round fit** for what is left of it. -/
theorem Fit.execute (h : Fit workflows bot) (hs : bot.agenda.Tracks)
    (hround : bot.agenda.round = b :: rest) :
    ∃ ran s, Scheduler.execute runner b (atRound bot rest) = (.done ran, s) ∧
      s.agenda.Tracks ∧ s.agenda.round = rest ∧ Fit workflows s ∧
      Start.Answers runner workflows ⟨b, atRound bot rest⟩ := by
  have hfit := h.tail hround
  have hsound := (hs.tail hround).sound
  have hb := hs.found (hround ▸ List.mem_cons_self)
  have hwritable := hfit.writable_change hsound hb (h.left (hround ▸ List.mem_cons_self))
  have henterable : Enterable b (atRound bot rest) := fun ran =>
    have hchanged := hsound.change b.number (f := Task.ranAt ran) fun _ => rfl
    hchanged.exists_write (hwritable ran)
  obtain ⟨ran, hending, hran⟩ := execute_answers hr hfit.workflows henterable
  have hthere := workflows?_execute hr b (atRound bot rest)
  have hagenda := agenda_execute hr.discreet b (atRound bot rest)
  obtain ⟨hnext, hnextRound⟩ := tracks_execute hr.discreet hs hround
  have hanswers : Start.Answers runner workflows ⟨b, atRound bot rest⟩ := by
    refine ⟨hb, ⟨ran, hending⟩, fun {r} hsome hworks => ?_⟩
    rw [Start.ran, hending]
    exact hran r hsome hworks
  rcases hrun : Scheduler.execute runner b (atRound bot rest) with ⟨ending, s⟩
  rw [hrun] at hending hthere hagenda hnext hnextRound
  obtain rfl : ending = .done ran := hending
  refine ⟨ran, s, rfl, hnext, hnextRound, ⟨hthere.trans h.workflows, fun {id c} hc => ?_, ?_⟩,
    hanswers⟩
  · rcases hagenda with hsame | ⟨ran, hentered⟩
    · rw [hsame] at hc
      exact hfit.writable hc
    · rw [hentered] at hc
      exact hwritable ran hc
  · exact fun hc => hfit.left (hnextRound ▸ hc)

/-- **A round executes what it finds due, in order**, and only a task that cannot be looked at ends
it before it has come to all of them. It answers which tasks ran. -/
theorem round_reaches {left : Nat} (hs : bot.agenda.Tracks) (h : Fit workflows bot)
    (hleft : bot.agenda.round.length ≤ left) :
    (startsOf runner now left bot).map Start.booking = reached now bot.agenda.round ∧
      (∀ s ∈ startsOf runner now left bot, s.Answers runner workflows) ∧
      (checkNext runner now left bot).1 =
        if bot.agenda.round.any fun b => b.task.zoned then .failed Task.mixedClocks
        else .done (((startsOf runner now left bot).filter (Start.ran runner)).map
          fun s => s.booking.task.id) := by
  -- whatever becomes of a booking, the round goes on, and is as fit as before
  induction left generalizing bot with
  | zero =>
    have hnil := List.eq_nil_of_length_eq_zero (Nat.le_zero.mp hleft)
    rw [hnil]
    exact ⟨rfl, List.forall_mem_nil _, rfl⟩
  | succ left ih =>
    rcases hround : bot.agenda.round with _ | ⟨b, rest⟩
    · rw [startsOf_nil runner (left + 1) now hround, (checkNext_nil _ (left + 1) now hround).1]
      exact ⟨rfl, List.forall_mem_nil _, rfl⟩
    rw [hround, List.length_cons] at hleft
    have hlook := b.task.isDue_eq now
    cases hzoned : b.task.zoned with
    | true =>
      rw [hzoned, if_pos rfl] at hlook
      rw [startsOf_fault runner left hround hlook, (checkNext_fault _ left hround hlook).1,
        reached_of_zoned now hzoned, List.any_cons, hzoned]
      exact ⟨rfl, List.forall_mem_nil _, rfl⟩
    | false =>
      rw [hzoned, if_neg Bool.false_ne_true] at hlook
      rw [reached_cons now hzoned, List.any_cons, hzoned, Bool.false_or]
      cases hdue : b.task.comesDue now with
      | false =>
        rw [hdue] at hlook
        rw [startsOf_idle runner left hround hlook, (checkNext_idle _ left hround hlook).1]
        exact ih (hs.tail hround) (h.tail hround) (Nat.le_of_succ_le_succ hleft)
      | true =>
        rw [hdue] at hlook
        obtain ⟨ran, s, hexecute, hnext, hnextRound, hnextFit, hanswers⟩ := h.execute hr hs hround
        obtain ⟨hbookings, hothers, hending⟩ :=
          ih hnext hnextFit (hnextRound.symm ▸ Nat.le_of_succ_le_succ hleft)
        rw [hnextRound] at hbookings hending
        rw [startsOf_done runner left hround hlook hexecute, List.map_cons, hbookings]
        refine ⟨rfl, List.forall_mem_cons.mpr ⟨hanswers, hothers⟩, ?_⟩
        have hran : Start.ran runner ⟨b, atRound bot rest⟩ = ran := by rw [Start.ran, hexecute]
        rw [checkNext_done runner left hround hlook hexecute, hending, List.filter_cons, hran]
        cases rest.any fun b => b.task.zoned with
        | true => rfl
        | false =>
          cases ran with
          | true => rfl
          | false => rfl

end

/-! ## Checks -/

/-- **A check executes what it finds due, in order**, and only a task that cannot be looked at ends
it before it has come to all of them. It answers which tasks ran. -/
theorem checkAt_reaches {runner : Option Runner} (hr : Dependable runner) {bot : Bot}
    (hs : bot.agenda.Sound) {workflows : List Workflow}
    (hworkflows : bot.workflows? = .done workflows)
    (htasks : ∀ t ∈ bot.agenda.tasks, t.Lasting) (now : Moment) :
    (starts runner now bot).map Start.booking = reached now (bot.agenda.bookings.map Prod.snd) ∧
      (∀ s ∈ starts runner now bot, s.Answers runner workflows) ∧
      (checkAt runner now bot).1 =
        if (bot.agenda.bookings.map Prod.snd).any fun b => b.task.zoned then
          .failed Task.mixedClocks
        else .done (((starts runner now bot).filter (Start.ran runner)).map
          fun s => s.booking.task.id) := by
  have hmem {id : String} {c : Booking} (hc : bot.agenda.find? id = some c) :
      c.task ∈ bot.agenda.tasks :=
    List.mem_map_of_mem (f := fun entry => entry.2.task) (Table.mem_of_get? hc)
  have hfit : Fit workflows (begun bot) := by
    refine ⟨hworkflows, fun hc => (htasks _ (hmem hc)).toWritable, fun {c} hc => ?_⟩
    exact htasks _ (hmem (hs.find?_of_mem hc))
  exact round_reaches hr hs.tracks_beginRound hfit (le_refl _)

/-- **A check comes to all that is due** and to its end, where all tasks can be looked at. -/
theorem checkAt_reaches_all {runner : Option Runner} (hr : Dependable runner) {bot : Bot}
    (hs : bot.agenda.Sound) {workflows : List Workflow}
    (hworkflows : bot.workflows? = .done workflows)
    (htasks : ∀ t ∈ bot.agenda.tasks, t.Lasting)
    (hlooked : ∀ t ∈ bot.agenda.tasks, t.zoned = false) (now : Moment) :
    (starts runner now bot).map Start.booking =
        (bot.agenda.bookings.map Prod.snd).filter (fun b => b.task.comesDue now) ∧
      ∃ after, checkAt runner now bot = (.done (((starts runner now bot).filter
        (Start.ran runner)).map fun s => s.booking.task.id), after) := by
  obtain ⟨hbookings, -, hending⟩ := checkAt_reaches hr hs hworkflows htasks now
  have hall : ∀ b ∈ bot.agenda.bookings.map Prod.snd, b.task.zoned = false := by
    intro b hb
    obtain ⟨entry, hentry, rfl⟩ := List.mem_map.mp hb
    exact hlooked _ (List.mem_map_of_mem (f := fun entry => entry.2.task) hentry)
  have hnone : (bot.agenda.bookings.map Prod.snd).any (fun b => b.task.zoned) = false :=
    List.any_eq_false.mpr fun b hb => Bool.eq_false_iff.mp (hall b hb)
  rw [reached_eq_filter now hall] at hbookings
  rw [hnone] at hending
  exact ⟨hbookings, _, Prod.ext hending rfl⟩

end Scheduler

end ChatFlow
