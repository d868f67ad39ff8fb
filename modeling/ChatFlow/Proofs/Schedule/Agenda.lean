import ChatFlow.Proofs.Checks
import ChatFlow.Proofs.Files
import ChatFlow.Proofs.Json.Documents
import ChatFlow.Schedule.Agenda

/-!
# The agenda and its file

* `Agenda.Sound` — **tasks stand under their ids, and bookings have numbers of their own**: true of
  every agenda that was read, and kept by every change;
* `Agenda.Sound.load_of_writtenOn` — **an agenda that was written is read with the tasks it had**:
  each document of a task is read as the task (`Task.read_toValue`), and what is written as text is
  read as the document (`Json.readChars_write`);
* `Agenda.Tracks` — **the agenda keeps up with its round**, also when a booking of it is changed.
-/

namespace ChatFlow

open Schema

namespace Task

theorem items_integer (l : List Int) : Schema.items integer (.list (l.map Value.int)) = .ok l :=
  items_map fun _ _ => rfl

theorem nullable_text (o : Option String) : nullable text (Event.optionalText o) = .ok o := by
  cases o with
  | none => rfl
  | some s => rfl

theorem nullable_integer (o : Option Int) :
    nullable integer (Value.orNull (o.map Value.int)) = .ok o := by
  cases o with
  | none => rfl
  | some n => rfl

/-- **A task is read from its document as it was.** -/
theorem read_toValue (t : Task) : read t.toValue = .ok t := by
  unfold read toValue record
  simp only [bind, Except.bind]
  rw [required_eq (v := .text t.id) (a := t.id) rfl rfl,
    required_eq (v := .text t.workflowId) (a := t.workflowId) rfl rfl,
    optional_eq (v := .text t.taskType) (a := t.taskType) rfl rfl,
    optional_eq rfl (nullable_text t.dailyTime),
    optional_eq rfl (nullable_integer t.intervalSeconds),
    optional_eq rfl (items_integer t.weekdays),
    optional_eq (v := .text t.targetType) (a := t.targetType) rfl rfl,
    required_eq (v := .text t.targetId) (a := t.targetId) rfl rfl,
    optional_eq rfl (nullable_text t.triggerUserId),
    optional_eq (v := .bool t.enabled) (a := t.enabled) rfl rfl,
    optional_eq rfl (nullable_text t.lastRun),
    optional_eq (v := .int t.runCount) (a := t.runCount) rfl rfl,
    optional_eq (v := .text t.description) (a := t.description) rfl rfl]
  rfl

theorem itemsExact_ints (l : List Int) : Json.ItemsExact (l.map Value.int) := by
  induction l with
  | nil => trivial
  | cons n l ih => exact ⟨trivial, ih⟩

theorem exact_optionalText (o : Option String) : Json.Exact (Event.optionalText o) := by
  cases o with
  | none => trivial
  | some s => trivial

theorem exact_optionalInt (o : Option Int) : Json.Exact (Value.orNull (o.map Value.int)) := by
  cases o with
  | none => trivial
  | some n => trivial

/-- **Written JSON tells a task apart from all others.** -/
theorem exact_toValue (t : Task) : Json.Exact t.toValue :=
  ⟨by simp [toTable, Table.keys], trivial, trivial, trivial, exact_optionalText _,
    exact_optionalInt _, itemsExact_ints _, trivial, trivial, exact_optionalText _, trivial,
    exact_optionalText _, trivial, trivial, trivial⟩

end Task

namespace Agenda

variable {a : Agenda} {id other : String} {b : Booking} {number : Nat} {f : Task → Task}

/-! ## Looking up -/

theorem find?_cancel (h : a.bookings.keys.Nodup) (id other : String) :
    (a.cancel id).find? other = if id = other then none else a.find? other :=
  Table.get?_erase h id other

theorem find?_change (a : Agenda) (number : Nat) (f : Task → Task) (id : String) :
    (a.change number f).find? id = (a.find? id).map (changeIf number f) :=
  Table.get?_map a.bookings (changeIf number f) id

/-- A booking found after a change is the one that was changed, or another one as it was. -/
theorem exists_of_find?_change {c : Booking} (h : (a.change number f).find? id = some c) :
    ∃ b, a.find? id = some b ∧ (b.number = number ∧ c.task = f b.task ∨ c = b) := by
  rw [find?_change, Option.map_eq_some_iff] at h
  obtain ⟨b, hb, rfl⟩ := h
  refine ⟨b, hb, ?_⟩
  rw [changeIf]
  split
  · next hnumber => exact .inl ⟨hnumber, rfl⟩
  · exact .inr rfl

/-- **A sound agenda**: tasks stand under their ids, and bookings have numbers of their own. -/
structure Sound (a : Agenda) : Prop where
  /-- no id stands there twice -/
  keys : a.bookings.keys.Nodup
  /-- a task stands under its id -/
  named {id : String} {b : Booking} (h : a.find? id = some b) : b.task.id = id
  /-- a number is that of one booking -/
  distinct {id other : String} {b c : Booking} (hb : a.find? id = some b)
    (hc : a.find? other = some c) (h : b.number = c.number) : id = other
  /-- numbers were given out in order -/
  counted {id : String} {b : Booking} (h : a.find? id = some b) : b.number < a.made

theorem sound_empty : empty.Sound := ⟨List.nodup_nil, nofun, nofun, nofun⟩

theorem Sound.book (h : a.Sound) (t : Task) : (a.book t).Sound where
  keys := Table.keys_nodup_insert h.keys t.id _
  named {id b} hb := by
    rw [find?_book] at hb
    split at hb
    · next heq =>
      obtain rfl := Option.some.inj hb
      exact heq
    · exact h.named hb
  distinct {id other b c} hb hc hbc := by
    rw [find?_book] at hb hc
    split at hb <;> split at hc
    · next hid hother => rw [← hid, hother]
    · obtain rfl := Option.some.inj hb
      exact absurd hbc (Nat.ne_of_gt (h.counted hc))
    · obtain rfl := Option.some.inj hc
      exact absurd hbc (Nat.ne_of_lt (h.counted hb))
    · exact h.distinct hb hc hbc
  counted {id b} hb := by
    rw [find?_book] at hb
    split at hb
    · obtain rfl := Option.some.inj hb
      exact Nat.lt_succ_self a.made
    · exact Nat.lt_succ_of_lt (h.counted hb)

theorem Sound.cancel (h : a.Sound) (id : String) : (a.cancel id).Sound := by
  have hfind {other : String} {b : Booking} (hb : (a.cancel id).find? other = some b) :
      a.find? other = some b := by
    rw [find?_cancel h.keys] at hb
    split at hb
    · cases hb
    · exact hb
  exact ⟨Table.keys_nodup_erase h.keys id, fun hb => h.named (hfind hb),
    fun hb hc => h.distinct (hfind hb) (hfind hc), fun hb => h.counted (hfind hb)⟩

theorem changeIf_number (number : Nat) (f : Task → Task) (b : Booking) :
    (changeIf number f b).number = b.number := by
  unfold changeIf
  split <;> rfl

theorem changeIf_id (hf : ∀ t, (f t).id = t.id) (number : Nat) (b : Booking) :
    (changeIf number f b).task.id = b.task.id := by
  unfold changeIf
  split
  · exact hf b.task
  · rfl

theorem Sound.change (h : a.Sound) (number : Nat) (hf : ∀ t, (f t).id = t.id) :
    (a.change number f).Sound := by
  have hfind {id : String} {b : Booking} (hb : (a.change number f).find? id = some b) :
      ∃ c, a.find? id = some c ∧ changeIf number f c = b := by
    rwa [find?_change, Option.map_eq_some_iff] at hb
  refine ⟨?_, fun hb => ?_, fun hb hc hbc => ?_, fun hb => ?_⟩
  · have hkeys : (a.change number f).bookings.keys = a.bookings.keys := List.map_map
    rw [hkeys]
    exact h.keys
  · obtain ⟨c, hc, rfl⟩ := hfind hb
    rw [changeIf_id hf]
    exact h.named hc
  · obtain ⟨b, hb', rfl⟩ := hfind hb
    obtain ⟨c, hc', rfl⟩ := hfind hc
    rw [changeIf_number, changeIf_number] at hbc
    exact h.distinct hb' hc' hbc
  · obtain ⟨c, hc, rfl⟩ := hfind hb
    rw [changeIf_number]
    exact h.counted hc

/-! ## The file of tasks -/

/-- The entries of a document are booked one after the other. -/
theorem Sound.bookEntries (h : a.Sound) {entries : List (String × Value)} {loaded : Agenda}
    {notes : List Note} (hload : a.bookEntries entries = (.ok loaded, notes)) :
    loaded.Sound ∧ loaded.round = a.round := by
  fun_induction Agenda.bookEntries a entries generalizing notes with
  | case1 a =>
    obtain ⟨hloaded, -⟩ := Prod.mk.inj hload
    obtain rfl := Except.ok.inj hloaded
    exact ⟨h, rfl⟩
  | case2 a id data rest t ht ih => exact ih (h.book t) hload
  | case3 a id data rest ds hds found noted hrest ih =>
    obtain ⟨rfl, -⟩ := Prod.mk.inj hload
    exact ih h hrest
  | case4 => cases hload

/-- **The agenda of a data directory is sound**, and no round is under way. -/
theorem sound_of_load {d : Disk} {notes : List Note} (h : load d = (.ok a, notes)) :
    a.Sound ∧ a.round = [] := by
  unfold load at h
  split at h
  · cases h
  · cases h
    exact ⟨sound_empty, rfl⟩
  · cases h
    exact ⟨sound_empty, rfl⟩
  · unfold ofValue at h
    split at h
    · exact sound_empty.bookEntries h
    · split at h
      · cases h
      · cases h
        exact ⟨sound_empty, rfl⟩

/-- The file of tasks is all that the agenda is read from. -/
theorem load_congr {d e : Disk} (h : d.read file = e.read file) : load d = load e := by
  unfold load Disk.readDocument
  rw [h]

/-- **A file of tasks that holds the agenda.** -/
def WrittenOn (a : Agenda) (d : Disk) : Prop :=
  ∃ content, Json.write .stored a.toValue = .ok content ∧
    d.read file = .content (Utf8.encode content.toList)

/-- A file that was written holds the agenda. -/
theorem writtenOn_of_save {d e : Disk} (h : a.save d = (.ok [], e)) : a.WrittenOn e := by
  unfold save at h
  split at h
  · cases h
  · next content hcontent =>
    split at h
    · next written hwritten =>
      obtain ⟨-, rfl⟩ := Prod.mk.inj h
      exact ⟨content, hcontent, Disk.read_of_replace hwritten⟩
    · cases h

/-- **Whether the agenda can be written** to a data directory with nothing to tell about it. -/
def savesOn (a : Agenda) (d : Disk) : Bool :=
  match a.save d with
  | (.ok [], _) => true
  | _ => false

theorem writtenOn_of_savesOn {d : Disk} (h : a.savesOn d = true) : a.WrittenOn (a.save d).2 := by
  unfold savesOn at h
  split at h
  · next e hsave => exact hsave ▸ writtenOn_of_save hsave
  · cases h

/-- **A file of tasks after a write** holds the agenda, or what it held before. -/
theorem writtenOn_or_read_save (a : Agenda) (d : Disk) :
    a.WrittenOn (a.save d).2 ∨ (a.save d).2.read file = d.read file := by
  unfold save
  split
  · rcases hwrite : d.write draft [] with _ | e
    · exact .inr rfl
    · exact .inr (Disk.read_congr (Disk.get?_write_of_ne (by decide) hwrite))
  · next content hcontent =>
    rcases hreplace : d.replace draft file content with ⟨_ | _, e⟩
    · exact .inr (Disk.read_congr (Disk.get?_of_replace_failed hreplace (by decide)))
    · exact .inl ⟨content, hcontent, Disk.read_of_replace hreplace⟩

/-- The agenda is written to a file of its own. -/
theorem get?_save_of_ne (a : Agenda) (d : Disk) {other : String} (hdraft : draft ≠ other)
    (hfile : file ≠ other) : (a.save d).2.entries.get? other = d.entries.get? other := by
  unfold save
  split
  · rcases hwrite : d.write draft [] with _ | e
    · rfl
    · exact Disk.get?_write_of_ne hdraft hwrite
  · next content _ =>
    have hreplace := Disk.get?_replace_of_ne hdraft hfile content (d := d)
    split <;> next e hsave => rwa [hsave] at hreplace

/-- The tasks of a sound agenda, each as a document under its id. -/
theorem Sound.toValue_eq (h : a.Sound) :
    a.toValue = .object (a.tasks.map fun t => (t.id, t.toValue)) := by
  rw [toValue, tasks, List.map_map]
  congr 1
  refine List.map_congr_left fun entry hentry => ?_
  have hid := h.named (Table.get?_of_mem h.keys hentry)
  rw [Function.comp_apply, hid]

/-- A file holds a sound agenda for the sake of its tasks. -/
theorem Sound.writtenOn_congr (h : a.Sound) {c : Agenda} (hc : c.Sound) (htasks : c.tasks = a.tasks)
    {d e : Disk} (hfile : e.read file = d.read file) (hd : a.WrittenOn d) : c.WrittenOn e := by
  obtain ⟨content, hcontent, hread⟩ := hd
  refine ⟨content, ?_, hfile.trans hread⟩
  rw [hc.toValue_eq, htasks, ← h.toValue_eq]
  exact hcontent

/-- A booking is found under the id of its task. -/
theorem Sound.find?_of_mem (h : a.Sound) (hb : b ∈ a.bookings.map Prod.snd) :
    a.find? b.task.id = some b := by
  obtain ⟨⟨name, c⟩, hentry, rfl⟩ := List.mem_map.mp hb
  have hc : a.find? name = some c := Table.get?_of_mem h.keys hentry
  rwa [h.named hc]

/-- A task is found under its id. -/
theorem Sound.find?_of_mem_tasks (h : a.Sound) {t : Task} (ht : t ∈ a.tasks) :
    ∃ b, a.find? t.id = some b ∧ b.task = t := by
  obtain ⟨entry, hentry, rfl⟩ := List.mem_map.mp ht
  exact ⟨entry.2, h.find?_of_mem (List.mem_map_of_mem hentry), rfl⟩

/-- Sound agendas of the same tasks know the same tasks under an id. -/
theorem Sound.exists_find? (h : a.Sound) {loaded : Agenda} (hloaded : loaded.Sound)
    (htasks : loaded.tasks = a.tasks) (hb : loaded.find? id = some b) :
    ∃ c, a.find? id = some c ∧ c.task = b.task := by
  have hmem : b.task ∈ a.tasks := by
    rw [← htasks]
    exact List.mem_map_of_mem (f := fun entry => entry.2.task) (Table.mem_of_get? hb)
  rw [← hloaded.named hb]
  exact h.find?_of_mem_tasks hmem

theorem Sound.id_of_mem (h : a.Sound) {entry : String × Booking} (hentry : entry ∈ a.bookings) :
    entry.2.task.id = entry.1 := h.named (Table.get?_of_mem h.keys hentry)

/-- The tasks stand under their ids. -/
theorem Sound.ids_eq (h : a.Sound) : a.tasks.map Task.id = a.bookings.keys := by
  rw [tasks, List.map_map, Table.keys]
  exact List.map_congr_left fun _ => h.id_of_mem

theorem Sound.nodup_ids (h : a.Sound) : (a.tasks.map Task.id).Nodup := h.ids_eq ▸ h.keys

theorem exact_entries (tasks : List Task) :
    Json.FieldsExact (tasks.map fun t => (t.id, t.toValue)) := by
  induction tasks with
  | nil => trivial
  | cons t tasks ih => exact ⟨t.exact_toValue, ih⟩

/-- Tasks with ids of their own are booked as they were. -/
theorem bookEntries_tasks {tasks : List Task} (h : (a.bookings.keys ++ tasks.map Task.id).Nodup) :
    ∃ loaded, a.bookEntries (tasks.map fun t => (t.id, t.toValue)) = (.ok loaded, []) ∧
      loaded.tasks = a.tasks ++ tasks := by
  induction tasks generalizing a with
  | nil => exact ⟨a, rfl, (List.append_nil _).symm⟩
  | cons t tasks ih =>
    have hnew : t.id ∉ a.bookings.keys := by
      intro hmem
      rw [List.nodup_append] at h
      exact h.2.2 t.id hmem t.id List.mem_cons_self rfl
    have hbook : (a.book t).bookings = a.bookings ++ [(t.id, ⟨a.made, t⟩)] :=
      Table.insert_eq_append hnew _
    have hkeys : ((a.book t).bookings.keys ++ tasks.map Task.id).Nodup := by
      rw [hbook]
      simpa [Table.keys] using h
    have hread : Task.read (.object (Table.insert t.toTable "id" (.text t.id))) = .ok t :=
      Task.read_toValue t
    obtain ⟨loaded, hload, htasks⟩ := ih hkeys
    refine ⟨loaded, ?_, ?_⟩
    · rw [List.map_cons, Task.toValue, Agenda.bookEntries, hread]
      exact hload
    · rw [htasks, Agenda.tasks, hbook]
      simp [Agenda.tasks]

/-- **A written agenda is read with the tasks that were written.** -/
theorem Sound.load_of_writtenOn (h : a.Sound) {d : Disk} (hd : a.WrittenOn d) :
    ∃ loaded, load d = (.ok loaded, []) ∧ loaded.tasks = a.tasks := by
  obtain ⟨content, hcontent, hread⟩ := hd
  rw [h.toValue_eq] at hcontent
  obtain ⟨loaded, hload, htasks⟩ := bookEntries_tasks (a := empty) h.nodup_ids
  have hexact : Json.Exact (.object (a.tasks.map fun t => (t.id, t.toValue))) := by
    refine ⟨?_, exact_entries a.tasks⟩
    have hkeys : Table.keys (a.tasks.map fun t => (t.id, t.toValue)) = a.tasks.map Task.id :=
      List.map_map
    rw [hkeys]
    exact h.nodup_ids
  refine ⟨loaded, ?_, htasks⟩
  have hdocument := Disk.readDocument_of_read Json.Layout.readable_stored hexact hcontent hread
  rw [load, hdocument]
  exact hload

/-! ## Rounds -/

/-- **An agenda that keeps up with its round**: the bookings that are left stand there as they are,
each under an id of its own. -/
structure Tracks (a : Agenda) : Prop where
  /-- the agenda is sound -/
  sound : a.Sound
  /-- the bookings that are left are on the agenda as they are -/
  found {b : Booking} (hb : b ∈ a.round) : a.find? b.task.id = some b
  /-- and each has an id of its own -/
  ids : (a.round.map fun b => b.task.id).Nodup

theorem Sound.withRound (h : a.Sound) (rest : List Booking) :
    ({ a with round := rest } : Agenda).Sound := ⟨h.keys, h.named, h.distinct, h.counted⟩

/-- All bookings are left to a round that begins. -/
theorem Sound.tracks_beginRound (h : a.Sound) : a.beginRound.Tracks where
  sound := h.withRound _
  found hb := h.find?_of_mem hb
  ids := by
    have hids := h.nodup_ids
    rw [tasks, List.map_map] at hids
    exact (List.map_map (l := a.bookings)).symm ▸ hids

section

variable {rest : List Booking} (h : a.Tracks) (hround : a.round = b :: rest)

include h hround

theorem Tracks.tail : ({ a with round := rest } : Agenda).Tracks where
  sound := h.sound.withRound rest
  found {c} hc := h.found (hround ▸ List.mem_cons_of_mem b hc)
  ids := by
    have hids := h.ids
    rw [hround] at hids
    exact (List.nodup_cons.mp hids).2

/-- The bookings behind the first one have other ids, so they have other numbers. -/
theorem Tracks.number_ne {c : Booking} (hc : c ∈ rest) : c.number ≠ b.number := by
  intro hnumber
  have hfound := h.found (hround ▸ List.mem_cons_of_mem b hc)
  have hid := h.sound.distinct hfound (h.found (hround ▸ List.mem_cons_self)) hnumber
  have hids := h.ids
  rw [hround] at hids
  have hmem : c.task.id ∈ rest.map fun b => b.task.id := List.mem_map_of_mem hc
  rw [hid] at hmem
  exact (List.nodup_cons.mp hids).1 hmem

/-- **A change of the first booking leaves those behind it as they are.** -/
theorem Tracks.change (hf : ∀ t, (f t).id = t.id) :
    (({ a with round := rest } : Agenda).change b.number f).Tracks ∧
      (({ a with round := rest } : Agenda).change b.number f).round = rest := by
  have htail := h.tail hround
  have hother {c : Booking} (hc : c ∈ rest) : changeIf b.number f c = c :=
    if_neg (h.number_ne hround hc)
  have hleft : (({ a with round := rest } : Agenda).change b.number f).round = rest :=
    (List.map_congr_left fun c hc => hother hc).trans (List.map_id rest)
  refine ⟨⟨htail.sound.change b.number hf, fun {c} hc => ?_, ?_⟩, hleft⟩
  · rw [hleft] at hc
    rw [find?_change, htail.found hc, Option.map_some, hother hc]
  · rw [hleft]
    exact htail.ids

end

end Agenda

end ChatFlow
