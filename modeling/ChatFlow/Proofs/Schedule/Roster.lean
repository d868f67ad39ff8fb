import ChatFlow.Clock.Iso
import ChatFlow.Proofs.Results
import ChatFlow.Proofs.Schedule.Agenda

/-!
# The roster of tasks

The tasks of an agenda are a table in order, and whatever happens to it is a deed: a task is added
in the place of the one of its id or at the end, a task is removed, the switch of a task is turned,
or a task has run.

* `Roster` — the table by itself, as deeds make it, and how often a task ran since it was added
  last;
* `Roster.accounted_ofDeeds` — **what holds of every table that deeds have made**;
* `Task.sensible_of_accept` — what is admitted can become due;
* `Agenda.Sound.tasks_book`, `Agenda.Sound.tasks_cancel`, `Agenda.Sound.tasks_change` — **what is
  done to an agenda is done to its tasks**.
-/

namespace ChatFlow

open Schema

/-! ## Tasks that can become due -/

namespace Task

/-- **A task that can become due**: a daily one has a time, and an interval is not too short. -/
structure Sensible (t : Task) : Prop where
  /-- the time of a daily task -/
  daily (h : t.taskType = "daily") : ∃ time, t.dailyTime = some time ∧ time ≠ ""
  /-- the interval of an interval task -/
  interval (h : t.taskType = "interval") : ∃ n, t.intervalSeconds = some n ∧ 60 ≤ n

/-- A task that breaks no rule can become due. -/
theorem sensible_of_idleRule? {t : Task} (h : t.idleRule? = none) : t.Sensible := by
  rw [idleRule?] at h
  split at h
  · cases h
  next hdaily =>
  split at h
  · cases h
  next hinterval =>
  simp only [Bool.and_eq_true, decide_eq_true_eq, not_and] at hdaily hinterval
  constructor
  · intro htype
    have htime := hdaily htype
    rcases hd : t.dailyTime with _ | time <;> rw [hd] at htime
    · exact absurd rfl htime
    · exact ⟨time, rfl, htime⟩
  · intro htype
    have hseconds := hinterval htype
    rcases hi : t.intervalSeconds with _ | n <;> rw [hi] at hseconds
    · exact absurd (by decide) hseconds
    · exact ⟨n, rfl, not_lt.mp hseconds⟩

/-- A task is admitted as one that has not run. -/
theorem runCount_of_read {data : Table Value} {t : Task}
    (h : read (.object (data.insert "run_count" (.int 0))) = .ok t) : t.runCount = 0 := by
  obtain ⟨fields, hfields, hread⟩ := exists_of_bind_ok h
  obtain rfl : data.insert "run_count" (.int 0) = fields := Except.ok.inj hfields
  rw [eq_of_finish hread]
  have hcount (found : List Defect) :
      (optional (data.insert "run_count" (.int 0)) "run_count" integer 0 found).1 = 0 := by
    rcases optional_cases (data.insert "run_count" (.int 0)) "run_count" integer 0 found with
      hdefault | ⟨v, hv, hvalue⟩
    · exact hdefault
    · rw [Table.get?_insert, if_pos rfl] at hv
      obtain rfl := Option.some.inj hv
      exact (Except.ok.inj hvalue).symm
  exact hcount _

theorem exists_of_accept {data : Table Value} {t : Task} (h : accept data = .ok t) :
    read (.object (data.insert "run_count" (.int 0))) = .ok t ∧ t.idleRule? = none := by
  rw [accept] at h
  split at h
  · cases h
  obtain ⟨task, hread, hrule⟩ := exists_of_bind_ok h
  split at hrule
  · cases hrule
  next hnone =>
  obtain rfl := Except.ok.inj hrule
  exact ⟨ok_of_mapError_ok hread, hnone⟩

/-- **A task that is admitted** can become due, and has not run. -/
theorem sensible_of_accept {data : Table Value} {t : Task} (h : accept data = .ok t) :
    t.Sensible ∧ t.runCount = 0 := by
  obtain ⟨hread, hrule⟩ := exists_of_accept h
  exact ⟨sensible_of_idleRule? hrule, runCount_of_read hread⟩

theorem Sensible.turned {t : Task} (h : t.Sensible) : t.turned.Sensible := ⟨h.daily, h.interval⟩

theorem Sensible.ranAt {t : Task} (h : t.Sensible) (now : String) : (t.ranAt now).Sensible :=
  ⟨h.daily, h.interval⟩

end Task

/-! ## Deeds -/

/-- **What happens to a table of tasks.** -/
inductive Deed where
  /-- a task is added -/
  | added (t : Task)
  /-- the task of an id is removed -/
  | removed (id : String)
  /-- its switch is turned -/
  | turned (id : String)
  /-- it has run until a moment -/
  | ran (id : String) (ended : Moment)
  deriving DecidableEq

namespace Deed

/-- Whether a deed adds a task of an id. -/
def adds (id : String) : Deed → Bool
  | added t => t.id = id
  | _ => false

/-- Whether a deed is a run of the task of an id. -/
def runs (id : String) : Deed → Bool
  | ran other _ => other = id
  | _ => false

/-- A deed that adds no task but one that can become due and has not run. -/
def Sensible : Deed → Prop
  | added t => t.Sensible ∧ t.runCount = 0
  | _ => True

end Deed

namespace Roster

/-- **The task of an id changed.** -/
def amend (id : String) (f : Task → Task) (tasks : List Task) : List Task :=
  tasks.map fun t => if t.id = id then f t else t

/-- **A task put** in the place of the one of its id, or else at the end. -/
def put (t : Task) (tasks : List Task) : List Task :=
  if t.id ∈ tasks.map Task.id then amend t.id (fun _ => t) tasks else tasks ++ [t]

/-- **The task of an id taken away.** -/
def drop (id : String) (tasks : List Task) : List Task := tasks.filter fun t => t.id ≠ id

/-- **The table after a deed.** -/
def apply (tasks : List Task) : Deed → List Task
  | .added t => put t tasks
  | .removed id => drop id tasks
  | .turned id => amend id (fun t => { t with enabled := !t.enabled }) tasks
  | .ran id ended => amend id
      (fun t => { t with lastRun := some ended.isoText, runCount := t.runCount + 1 }) tasks

/-- **The table that deeds have made.** -/
def ofDeeds (ds : List Deed) : List Task := ds.foldl apply []

/-- **How often the task of an id ran** since it was added last. -/
def runsSince (id : String) (ds : List Deed) : Nat :=
  (ds.reverse.takeWhile fun d => !d.adds id).countP (Deed.runs id)

section

variable {tasks : List Task} {t x : Task} {id : String} {f : Task → Task} {ds : List Deed}
  {d : Deed}

/-- A task that is added has not run since; any other run is one more. -/
theorem runsSince_append (id : String) (ds : List Deed) (d : Deed) : runsSince id (ds ++ [d]) =
    if d.adds id then 0 else runsSince id ds + if d.runs id then 1 else 0 := by
  rw [runsSince, List.reverse_append, List.reverse_singleton, List.singleton_append,
    List.takeWhile_cons]
  cases d.adds id with
  | true => rfl
  | false => exact List.countP_cons

/-! ### Ids -/

theorem nodup_amend (hf : ∀ t, t.id = id → (f t).id = id) (h : (tasks.map Task.id).Nodup) :
    ((amend id f tasks).map Task.id).Nodup := by
  have hids : (amend id f tasks).map Task.id = tasks.map Task.id := by
    rw [amend, List.map_map]
    refine List.map_congr_left fun x _ => ?_
    rw [Function.comp_apply]
    split
    · next heq => rw [hf x heq, heq]
    · rfl
  rwa [hids]

theorem nodup_put (h : (tasks.map Task.id).Nodup) (t : Task) :
    ((put t tasks).map Task.id).Nodup := by
  rw [put]
  split
  · exact nodup_amend (fun _ _ => rfl) h
  · next hnew =>
    rw [List.map_append]
    exact h.append (List.nodup_singleton _) (by simpa using hnew)

/-! ### Ids that are not there -/

theorem amend_of_ne (h : ∀ x ∈ tasks, x.id ≠ id) : amend id f tasks = tasks :=
  (List.map_congr_left fun x hx => if_neg (h x hx)).trans (List.map_id tasks)

theorem drop_of_ne (h : ∀ x ∈ tasks, x.id ≠ id) : drop id tasks = tasks :=
  List.filter_eq_self.mpr fun x hx => decide_eq_true (h x hx)

/-- The id of the first task is not there again, where ids are distinct. -/
theorem ne_of_nodup (hids : ((x :: tasks).map Task.id).Nodup) (h : x.id = id) :
    ∀ y ∈ tasks, y.id ≠ id := by
  intro y hy heq
  rw [List.map_cons, List.nodup_cons] at hids
  exact hids.1 (List.mem_map.mpr ⟨y, hy, heq.trans h.symm⟩)

/-! ### One task after the other -/

theorem put_cons_of_ne (h : x.id ≠ t.id) (tasks : List Task) :
    put t (x :: tasks) = x :: put t tasks := by
  have hmem : t.id ∈ (x :: tasks).map Task.id ↔ t.id ∈ tasks.map Task.id := by
    simp [Ne.symm h]
  simp only [put, hmem]
  split
  · rw [amend, List.map_cons, if_neg h, amend]
  · rfl

/-- A task that stands in the first place is replaced there, where ids are distinct. -/
theorem put_cons_of_eq (hids : ((x :: tasks).map Task.id).Nodup) (h : x.id = t.id) :
    put t (x :: tasks) = t :: tasks := by
  have hmem : t.id ∈ (x :: tasks).map Task.id := h ▸ List.mem_cons_self
  have hrest : amend t.id (fun _ => t) tasks = tasks := amend_of_ne (ne_of_nodup hids h)
  rw [put, if_pos hmem, amend, List.map_cons, if_pos h, ← amend, hrest]

theorem drop_cons_of_ne (h : x.id ≠ id) (tasks : List Task) :
    drop id (x :: tasks) = x :: drop id tasks := List.filter_cons_of_pos (decide_eq_true h)

/-- A task that stands in the first place is all that is taken away, where ids are distinct. -/
theorem drop_cons_of_eq (hids : ((x :: tasks).map Task.id).Nodup) (h : x.id = id) :
    drop id (x :: tasks) = tasks := by
  rw [drop, List.filter_cons_of_neg (by simpa using h)]
  exact drop_of_ne (ne_of_nodup hids h)

/-! ### Members -/

theorem mem_amend (h : x ∈ amend id f tasks) :
    ∃ y ∈ tasks, x = if y.id = id then f y else y := by
  obtain ⟨y, hy, heq⟩ := List.mem_map.mp h
  exact ⟨y, hy, heq.symm⟩

theorem mem_put (h : x ∈ put t tasks) : x = t ∨ x ∈ tasks ∧ x.id ≠ t.id := by
  rw [put] at h
  split at h
  · obtain ⟨y, hy, rfl⟩ := mem_amend h
    split
    · exact .inl rfl
    · next hne => exact .inr ⟨hy, hne⟩
  · next hnew =>
    rcases List.mem_append.mp h with hold | hlast
    · refine .inr ⟨hold, ?_⟩
      intro heq
      exact hnew (heq ▸ List.mem_map_of_mem hold)
    · exact .inl (List.mem_singleton.mp hlast)

/-! ### What deeds keep -/

/-- **What holds of a table that deeds have made.** -/
structure Accounted (ds : List Deed) (tasks : List Task) : Prop where
  /-- no id is there twice -/
  ids : (tasks.map Task.id).Nodup
  /-- each task can become due -/
  sensible {t : Task} (ht : t ∈ tasks) : t.Sensible
  /-- each task tells how often it ran since it was added last -/
  counted {t : Task} (ht : t ∈ tasks) : t.runCount = runsSince t.id ds

theorem accounted_nil : Accounted [] [] := ⟨List.nodup_nil, nofun, nofun⟩

/-- A task whose deed is neither its addition nor its run tells what it told before. -/
theorem Accounted.runCount (h : Accounted ds tasks) (hx : x ∈ tasks) (hadds : d.adds x.id = false)
    (hruns : d.runs x.id = false) : x.runCount = runsSince x.id (ds ++ [d]) := by
  rw [runsSince_append, hadds, hruns]
  exact h.counted hx

/-- A deed that changes one task counts as a run of it when the task counts one run more. -/
theorem Accounted.amend (h : Accounted ds tasks) (id : String) (hid : ∀ t, (f t).id = t.id)
    (hsensible : ∀ t, t.Sensible → (f t).Sensible) (hadds : ∀ name, d.adds name = false)
    (hother : ∀ name, name ≠ id → d.runs name = false)
    (hcount : ∀ t, (f t).runCount = t.runCount + if d.runs id then 1 else 0) :
    Accounted (ds ++ [d]) (amend id f tasks) := by
  refine ⟨nodup_amend (fun t ht => (hid t).trans ht) h.ids, fun {x} hx => ?_, fun {x} hx => ?_⟩
  · obtain ⟨y, hy, rfl⟩ := mem_amend hx
    split
    · exact hsensible y (h.sensible hy)
    · exact h.sensible hy
  · obtain ⟨y, hy, rfl⟩ := mem_amend hx
    split
    · next heq =>
      rw [hid, hcount, runsSince_append, hadds, h.counted hy, heq]
      simp
    · next hne => exact h.runCount hy (hadds _) (hother _ hne)

theorem Accounted.apply (h : Accounted ds tasks) (hd : d.Sensible) :
    Accounted (ds ++ [d]) (apply tasks d) := by
  cases d with
  | added t =>
    refine ⟨nodup_put h.ids t, fun {x} hx => ?_, fun {x} hx => ?_⟩
    · rcases mem_put hx with rfl | ⟨hold, -⟩
      · exact hd.1
      · exact h.sensible hold
    · rcases mem_put hx with rfl | ⟨hold, hne⟩
      · rw [runsSince_append, hd.2]
        simp [Deed.adds]
      · exact h.runCount hold (decide_eq_false (Ne.symm hne)) rfl
  | removed id =>
    refine ⟨h.ids.sublist (List.filter_sublist.map Task.id), fun hx => ?_, fun {x} hx => ?_⟩
    · exact h.sensible (List.mem_of_mem_filter hx)
    · exact h.runCount (List.mem_of_mem_filter hx) rfl rfl
  | turned id =>
    refine h.amend id (fun _ => rfl) (fun _ => Task.Sensible.turned) (fun _ => rfl)
      (fun _ _ => rfl) fun t => ?_
    exact (add_zero t.runCount).symm
  | ran id ended =>
    refine h.amend id (fun _ => rfl) (fun _ ht => ht.ranAt _) (fun _ => rfl)
      (fun _ hne => decide_eq_false (Ne.symm hne)) fun t => ?_
    simp [Deed.runs]

/-- **What holds of every table that deeds have made.** -/
theorem accounted_ofDeeds (h : ∀ d ∈ ds, d.Sensible) : Accounted ds (ofDeeds ds) := by
  -- on the deeds from the last one backwards: each finds a table that is accounted for
  induction ds using List.reverseRecOn with
  | nil => exact accounted_nil
  | append_singleton ds d ih =>
    rw [List.forall_mem_append, List.forall_mem_singleton] at h
    rw [ofDeeds, List.foldl_append]
    exact (ih h.1).apply h.2

end

end Roster

/-! ## The tasks of an agenda -/

namespace Agenda

open Roster

variable {a : Agenda} {id : String} {b : Booking} {f : Task → Task}

section

variable {bookings : Table Booking} (hnamed : ∀ entry ∈ bookings, entry.2.task.id = entry.1)
  (hids : ((bookings.map fun entry => entry.2.task).map Task.id).Nodup)

include hnamed hids

/-- A booking written puts its task. -/
theorem map_insert_eq_put (t : Task) (number : Nat) :
    (bookings.insert t.id ⟨number, t⟩).map (fun entry => entry.2.task) =
      put t (bookings.map fun entry => entry.2.task) := by
  induction bookings with
  | nil => rfl
  | cons entry rest ih =>
    obtain ⟨name, c⟩ := entry
    rw [List.forall_mem_cons] at hnamed
    obtain ⟨hname, hrest⟩ := hnamed
    dsimp only at hname
    rw [Table.insert, List.map_cons]
    split
    · next heq => exact (put_cons_of_eq hids (hname.trans heq)).symm
    · next hne =>
      rw [put_cons_of_ne (hname ▸ hne), List.map_cons, ih hrest (List.nodup_cons.mp hids).2]

/-- A booking erased takes its task away. -/
theorem map_erase_eq_drop (id : String) :
    (bookings.erase id).map (fun entry => entry.2.task) =
      drop id (bookings.map fun entry => entry.2.task) := by
  induction bookings with
  | nil => rfl
  | cons entry rest ih =>
    obtain ⟨name, c⟩ := entry
    rw [List.forall_mem_cons] at hnamed
    obtain ⟨hname, hrest⟩ := hnamed
    dsimp only at hname
    rw [Table.erase, List.map_cons]
    split
    · next heq => exact (drop_cons_of_eq hids (hname.trans heq)).symm
    · next hne =>
      rw [drop_cons_of_ne (hname ▸ hne), List.map_cons, ih hrest (List.nodup_cons.mp hids).2]

end

/-- An id without booking is that of no task. -/
theorem Sound.id_ne (h : a.Sound) (hnone : a.find? id = none) : ∀ t ∈ a.tasks, t.id ≠ id := by
  rintro t ht rfl
  obtain ⟨b, hb, -⟩ := h.find?_of_mem_tasks ht
  rw [hb] at hnone
  cases hnone

/-- **A task that is booked is put.** -/
theorem Sound.tasks_book (h : a.Sound) (t : Task) : (a.book t).tasks = put t a.tasks :=
  map_insert_eq_put (fun _ => h.id_of_mem) h.nodup_ids t a.made

/-- **A task that is cancelled is taken away.** -/
theorem Sound.tasks_cancel (h : a.Sound) (id : String) : (a.cancel id).tasks = drop id a.tasks :=
  map_erase_eq_drop (fun _ => h.id_of_mem) h.nodup_ids id

/-- **A change of a booking changes the task of its id.** -/
theorem Sound.tasks_change (h : a.Sound) (hb : a.find? id = some b) (f : Task → Task) :
    (a.change b.number f).tasks = amend id f a.tasks := by
  rw [tasks, Agenda.change, List.map_map, tasks, amend, List.map_map]
  refine List.map_congr_left fun entry hentry => ?_
  have hc : a.find? entry.1 = some entry.2 := Table.get?_of_mem h.keys hentry
  have hsame : entry.2.number = b.number ↔ entry.2.task.id = id := by
    constructor
    · intro hnumber
      rw [h.id_of_mem hentry]
      exact h.distinct hc hb hnumber
    · intro hid
      rw [← h.id_of_mem hentry, hid, hb] at hc
      rw [Option.some.inj hc]
  simp only [Function.comp_apply, changeIf, hsame, apply_ite Booking.task]

end Agenda

end ChatFlow
