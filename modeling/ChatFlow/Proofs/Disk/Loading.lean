import ChatFlow.Proofs.Schedule.Agenda
import ChatFlow.Store.File
import ChatFlow.Workflow.Archive

/-!
# The data directory as it is found

Stored values, workflows and tasks are read from files that anybody may have written to. What comes
of that, whatever bytes they hold:

* `Store.load_of_legible`, `Archive.load_of_legible`, `Agenda.load_of_regular` — a file that is no
  JSON or of another form counts as empty, and **an entry that is no good takes none of the others
  with it**;
* `Store.load_stops`, `Archive.load_stops`, `Agenda.load_stops` — all other files stop their
  readers: bytes that are no text, an integer past the digit limit, and a file of tasks that is no
  map of maps;
* `Disk.loads_all_valid` — the two together, for the whole directory.
-/

namespace ChatFlow

/-! ## Files that do not stop their readers -/

namespace Disk

variable {d : Disk} {name : String}

/-- **A file that stops no reader**: if it can be opened at all, its bytes are text, and no integer
in the text is past the digit limit. -/
def Legible (d : Disk) (name : String) : Prop :=
  ∀ bytes, d.read name = .content bytes →
    ∃ chars, Utf8.decode? bytes = some chars ∧ Json.readChars chars ≠ .error .digitLimit

/-- The entries of a file that holds an object. -/
def objectOf (d : Disk) (name : String) : Table Value :=
  match d.readDocument name with
  | .ok (.document (.object entries)) => entries
  | _ => []

/-- The entries of a file that holds a list. -/
def listOf (d : Disk) (name : String) : List Value :=
  match d.readDocument name with
  | .ok (.document (.list entries)) => entries
  | _ => []

theorem Legible.exists_readDocument (h : d.Legible name) :
    ∃ doc, d.readDocument name = .ok doc := by
  unfold readDocument
  split
  · exact ⟨_, rfl⟩
  · exact ⟨_, rfl⟩
  · next bytes hread =>
    obtain ⟨chars, hchars, hlimit⟩ := h bytes hread
    simp only [hchars]
    split
    · exact ⟨_, rfl⟩
    · exact ⟨_, rfl⟩
    · exact ⟨_, rfl⟩
    · next hvalue => exact absurd hvalue hlimit

theorem legible_of_readDocument {doc : FileDocument} (h : d.readDocument name = .ok doc) :
    d.Legible name := by
  intro bytes hread
  rw [readDocument, hread] at h
  dsimp only at h
  split at h
  · cases h
  · next chars hchars =>
    refine ⟨chars, hchars, fun hlimit => ?_⟩
    rw [hlimit] at h
    cases h

theorem exists_readDocument_error (h : ¬ d.Legible name) :
    ∃ f, d.readDocument name = .error f := by
  rcases hdoc : d.readDocument name with f | doc
  · exact ⟨f, rfl⟩
  · exact absurd (legible_of_readDocument hdoc) h

instance (d : Disk) (name : String) : Decidable (d.Legible name) :=
  match h : d.readDocument name with
  | .error f => .isFalse fun hlegible => by
    obtain ⟨doc, hdoc⟩ := hlegible.exists_readDocument
    cases h.symm.trans hdoc
  | .ok _ => .isTrue (legible_of_readDocument h)

/-- **No key stands twice in a file.** -/
theorem nodup_keys_objectOf (d : Disk) (name : String) : (d.objectOf name).keys.Nodup := by
  unfold objectOf
  split
  · next entries hdoc => exact (Json.exact_object_iff.mp (storable_of_readDocument hdoc).exact).1
  · exact List.nodup_nil

end Disk

/-! ## Stored values -/

namespace Store

variable {d : Disk}

/-- The record of a value that is one. -/
def record? : Value → Option (Table Value)
  | .object record => some record
  | _ => none

/-- **What a store holds that was read**: the records among the entries of the one file, and all
entries of the other. -/
structure ReadFrom (s : Store) (d : Disk) : Prop where
  /-- a user has the record that stands there -/
  users (user : String) :
    s.users.get? user = ((d.objectOf Collection.users.file).get? user).bind record?
  /-- a value for everybody is what stands there -/
  globals (key : String) : s.globals.get? key = (d.objectOf Collection.globals.file).get? key

theorem get?_usersOf {entries : Table Value} (h : entries.keys.Nodup) (user : String) :
    (usersOf entries).get? user = (entries.get? user).bind record? := by
  induction entries with
  | nil => rfl
  | cons entry rest ih =>
    obtain ⟨id, v⟩ := entry
    obtain ⟨hid, hrest⟩ := List.nodup_cons.mp h
    have hnone : Table.get? rest id = none := Table.get?_eq_none_iff.mpr hid
    cases v with
    | object record =>
      change Table.get? ((id, record) :: usersOf rest) user = _
      rw [Table.get?, Table.get?, ih hrest]
      split <;> rfl
    | _ =>
      change Table.get? (usersOf rest) user = _
      rw [ih hrest, Table.get?]
      split
      · next heq =>
        -- the key stands there once, and not with a record
        rw [← heq, hnone]
        rfl
      · rfl

/-- A collection is read from what its file holds as an object. -/
theorem loadCollection_eq {c : Collection} (h : d.Legible c.file) (s : Store) :
    (loadCollection d c s).1 = .ok (s.adopt (d.objectOf c.file) c) ∨
      (loadCollection d c s).1 = .ok s ∧ d.objectOf c.file = [] := by
  obtain ⟨doc, hdoc⟩ := h.exists_readDocument
  unfold loadCollection Disk.objectOf
  rw [hdoc]
  cases doc with
  | absent => exact .inr ⟨rfl, rfl⟩
  | broken => exact .inr ⟨rfl, rfl⟩
  | document v =>
    cases v with
    | object entries => exact .inl rfl
    | _ => exact .inr ⟨rfl, rfl⟩

theorem loadCollection_stops {c : Collection} (h : ¬ d.Legible c.file) (s : Store) :
    ∃ f, (loadCollection d c s).1 = .error f := by
  obtain ⟨f, hf⟩ := Disk.exists_readDocument_error h
  refine ⟨f, ?_⟩
  rw [loadCollection, hf]

/-- The store of a data directory is read collection by collection. -/
theorem load_eq (d : Disk) :
    (load d).1 = (loadCollection d .users empty).1 >>= fun s =>
      (loadCollection d .globals s).1 := by
  unfold load
  rcases loadCollection d .users empty with ⟨f | s, notes⟩
  · rfl
  · rfl

/-- **Every record and every value in legible files is loaded.** -/
theorem load_of_legible (h : ∀ c : Collection, d.Legible c.file) :
    ∃ s, (load d).1 = .ok s ∧ s.ReadFrom d := by
  have hkeys := d.nodup_keys_objectOf Collection.users.file
  have husers : ∃ users, (loadCollection d .users empty).1 = .ok ⟨users, []⟩ ∧
      ∀ user, users.get? user = ((d.objectOf Collection.users.file).get? user).bind record? := by
    rcases loadCollection_eq (h .users) empty with hload | ⟨hload, hnone⟩
    · exact ⟨_, hload, get?_usersOf hkeys⟩
    · exact ⟨[], hload, fun _ => by rw [hnone]; rfl⟩
  obtain ⟨users, hload, hget⟩ := husers
  rw [load_eq, hload]
  rcases loadCollection_eq (h .globals) ⟨users, []⟩ with hglobals | ⟨hglobals, hnone⟩
  · exact ⟨_, hglobals, hget, fun _ => rfl⟩
  · exact ⟨_, hglobals, hget, fun _ => by rw [hnone]⟩

theorem load_stops (h : ¬ ∀ c : Collection, d.Legible c.file) : ∃ f, (load d).1 = .error f := by
  rw [load_eq]
  by_cases husers : d.Legible Collection.users.file
  · have hglobals : ¬ d.Legible Collection.globals.file := by
      refine fun hglobals => h fun c => ?_
      cases c with
      | users => exact husers
      | globals => exact hglobals
    rcases (loadCollection d .users empty).1 with f | s
    · exact ⟨f, rfl⟩
    · exact loadCollection_stops hglobals s
  · obtain ⟨f, hf⟩ := loadCollection_stops husers empty
    exact ⟨f, by rw [hf]; rfl⟩

end Store

/-! ## Workflows -/

namespace Archive

/-- The workflow of an entry that is one. -/
def workflow? (entry : Value) : Option Workflow := (Workflow.load entry).toOption

theorem workflowsOf_eq (entries : List Value) :
    (workflowsOf entries).1 = entries.filterMap workflow? := by
  induction entries with
  | nil => rfl
  | cons entry rest ih =>
    rw [List.filterMap_cons, ← ih, workflowsOf, workflow?]
    rcases Workflow.load entry with ds | w
    · rfl
    · rfl

theorem readFile_of_legible {d : Disk} (h : d.Legible file) :
    ∃ notes, readFile d = .ok ((d.listOf file).filterMap workflow?, notes) := by
  obtain ⟨doc, hdoc⟩ := h.exists_readDocument
  unfold readFile Disk.listOf
  rw [hdoc]
  cases doc with
  | absent => exact ⟨_, rfl⟩
  | broken => exact ⟨_, rfl⟩
  | document v =>
    cases v with
    | list entries => exact ⟨(workflowsOf entries).2, by rw [← workflowsOf_eq]; rfl⟩
    | _ => exact ⟨_, rfl⟩

/-- **Every workflow in a legible file is loaded**, in stored order, where it is not known yet what
the file holds. -/
theorem load_of_legible {a : Archive} (h : a.fresh?.isSome ∨ a.disk.Legible file) :
    (load a).1 = .done (a.fresh?.getD ((a.disk.listOf file).filterMap workflow?)) := by
  unfold load
  rcases hfresh : a.fresh? with _ | workflows
  · have hlegible : a.disk.Legible file := h.resolve_left (by simp [hfresh])
    obtain ⟨notes, hread⟩ := readFile_of_legible hlegible
    rw [hread]
    rfl
  · rfl

theorem load_stops {a : Archive} (h : ¬ (a.fresh?.isSome ∨ a.disk.Legible file)) :
    ∃ f, (load a).1 = .failed f := by
  obtain ⟨hfresh, hlegible⟩ := not_or.mp h
  obtain ⟨f, hf⟩ := Disk.exists_readDocument_error hlegible
  refine ⟨f, ?_⟩
  rw [load, Option.not_isSome_iff_eq_none.mp hfresh, readFile, hf]
  rfl

end Archive

/-! ## Tasks -/

namespace Task

/-- The task of an entry under its id, if it is one. -/
def ofEntry (id : String) : Value → Option Task
  | .object data => (read (.object (Table.insert data "id" (.text id)))).toOption
  | _ => none

/-- A task has the id that it was read under. -/
theorem id_of_read {data : Table Value} {id : String} {t : Task}
    (h : read (.object (Table.insert data "id" (.text id))) = .ok t) : t.id = id := by
  have hid : (Table.insert data "id" (.text id)).get? "id" = some (.text id) := by
    rw [Table.get?_insert, if_pos rfl]
  unfold read Schema.record at h
  simp only [bind, Except.bind] at h
  rw [Schema.required_eq hid (a := id) rfl] at h
  rw [Schema.eq_of_finish h]
  rfl

end Task

namespace Agenda

variable {a : Agenda} {d : Disk}

/-- The task of an id. -/
def task? (a : Agenda) (id : String) : Option Task := (a.find? id).map Booking.task

/-- Whether an entry is a map. -/
def isMap : Value → Bool
  | .object _ => true
  | _ => false

/-- **Whether a document stops no reader of tasks**: it is a map of maps, or says nothing. -/
def regular : Value → Bool
  | .object entries => entries.all fun entry => isMap entry.2
  | v => !v.present

/-- **A file that stops no reader of tasks.** -/
def RegularOn (d : Disk) : Prop :=
  d.Legible file ∧ ∀ v, d.readDocument file = .ok (.document v) → regular v = true

instance (d : Disk) : Decidable (RegularOn d) :=
  match h : d.readDocument file with
  | .error f => .isFalse fun hregular => by
    obtain ⟨doc, hdoc⟩ := hregular.1.exists_readDocument
    cases h.symm.trans hdoc
  | .ok (.document v) =>
    decidable_of_iff (regular v = true)
      ⟨fun hv => ⟨Disk.legible_of_readDocument h, fun u hu => by
        obtain rfl := FileDocument.document.inj (Except.ok.inj (h.symm.trans hu))
        exact hv⟩, fun hregular => hregular.2 v h⟩
  | .ok .absent => .isTrue ⟨Disk.legible_of_readDocument h, fun _ hu => nomatch h.symm.trans hu⟩
  | .ok .broken => .isTrue ⟨Disk.legible_of_readDocument h, fun _ hu => nomatch h.symm.trans hu⟩

theorem exists_of_isMap {v : Value} (h : isMap v = true) : ∃ data, v = .object data := by
  cases v with
  | object data => exact ⟨data, rfl⟩
  | _ => cases h

theorem task?_book (a : Agenda) (t : Task) (id : String) :
    (a.book t).task? id = if t.id = id then some t else a.task? id := by
  rw [task?, find?_book]
  split <;> rfl

/-- **Every task among entries is booked**, and the bookings of other ids stay. -/
theorem task?_bookEntries {entries : Table Value} (hkeys : entries.keys.Nodup)
    (hmaps : entries.all (fun entry => isMap entry.2) = true) :
    ∃ loaded, (a.bookEntries entries).1 = .ok loaded ∧ ∀ id,
      loaded.task? id = ((entries.get? id).bind (Task.ofEntry id)).or (a.task? id) := by
  induction entries generalizing a with
  | nil => exact ⟨a, rfl, fun _ => rfl⟩
  | cons entry rest ih =>
    obtain ⟨key, v⟩ := entry
    obtain ⟨hkey, hrest⟩ := List.nodup_cons.mp hkeys
    obtain ⟨hmap, hothers⟩ := Bool.and_eq_true_iff.mp (List.all_cons ▸ hmaps)
    obtain ⟨data, rfl⟩ := exists_of_isMap hmap
    -- what stands behind it says nothing about its id
    have hnone : Table.get? rest key = none := Table.get?_eq_none_iff.mpr hkey
    rw [bookEntries]
    rcases hread : Task.read (.object (Table.insert data "id" (.text key))) with ds | t
    · obtain ⟨loaded, hload, htasks⟩ := ih (a := a) hrest hothers
      refine ⟨loaded, hload, fun id => ?_⟩
      rw [htasks, Table.get?]
      split
      · next hid =>
        subst hid
        rw [hnone, Option.bind_some, Task.ofEntry, hread]
        rfl
      · rfl
    · obtain ⟨loaded, hload, htasks⟩ := ih (a := a.book t) hrest hothers
      refine ⟨loaded, hload, fun id => ?_⟩
      rw [htasks, Table.get?, task?_book, Task.id_of_read hread]
      split
      · next hid =>
        subst hid
        rw [hnone, Option.bind_some, Task.ofEntry, hread]
        rfl
      · rfl

/-- An entry that is no map stops the reader. -/
theorem bookEntries_stops {entries : Table Value}
    (h : ¬ entries.all (fun entry => isMap entry.2) = true) :
    ∃ f, (a.bookEntries entries).1 = .error f := by
  fun_induction bookEntries a entries with
  | case1 => exact absurd rfl h
  | case2 a id data rest t ht ih => exact ih h
  | case3 a id data rest ds hds found noted hrest ih =>
    have hstops := ih h
    rwa [hrest] at hstops
  | case4 => exact ⟨_, rfl⟩

/-- What comes of a document that is no map. -/
theorem ofValue_other {v : Value} (h : ∀ entries, v ≠ .object entries) :
    ofValue v =
      if v.present then (.error (.noMember v.kindName "items"), []) else (.ok empty, []) := by
  cases v with
  | object entries => exact absurd rfl (h entries)
  | _ => rfl

theorem regular_other {v : Value} (h : ∀ entries, v ≠ .object entries) :
    regular v = !v.present := by
  cases v with
  | object entries => exact absurd rfl (h entries)
  | _ => rfl

/-- **Every task in a regular file is loaded.** -/
theorem load_of_regular (h : RegularOn d) :
    ∃ a, (load d).1 = .ok a ∧ ∀ id,
      a.task? id = ((d.objectOf file).get? id).bind (Task.ofEntry id) := by
  obtain ⟨doc, hdoc⟩ := h.1.exists_readDocument
  have hkeys := d.nodup_keys_objectOf file
  unfold load
  unfold Disk.objectOf at hkeys ⊢
  rw [hdoc] at hkeys ⊢
  cases doc with
  | absent => exact ⟨empty, rfl, fun _ => rfl⟩
  | broken => exact ⟨empty, rfl, fun _ => rfl⟩
  | document v =>
    have hregular := h.2 v hdoc
    by_cases hobject : ∃ entries, v = .object entries
    · obtain ⟨entries, rfl⟩ := hobject
      obtain ⟨a, hload, htasks⟩ := task?_bookEntries (a := empty) hkeys hregular
      exact ⟨a, hload, fun id => by rw [htasks]; exact Option.or_none⟩
    · rw [not_exists] at hobject
      rw [regular_other hobject, Bool.not_eq_true'] at hregular
      dsimp only
      rw [ofValue_other hobject, hregular, if_neg Bool.false_ne_true]
      refine ⟨empty, rfl, fun _ => ?_⟩
      split
      · next hv => exact absurd (FileDocument.document.inj (Except.ok.inj hv)) (hobject _)
      · rfl

theorem load_stops (h : ¬ RegularOn d) : ∃ f, (load d).1 = .error f := by
  rcases hdoc : d.readDocument file with f | doc
  · exact ⟨f, by rw [load, hdoc]⟩
  · obtain ⟨v, hv, hirregular⟩ :
        ∃ v, d.readDocument file = .ok (.document v) ∧ ¬ regular v = true := by
      by_contra hall
      refine h ⟨Disk.legible_of_readDocument hdoc, fun v hv => ?_⟩
      by_contra hirregular
      exact hall ⟨v, hv, hirregular⟩
    rw [load, hv]
    dsimp only
    by_cases hobject : ∃ entries, v = .object entries
    · obtain ⟨entries, rfl⟩ := hobject
      exact bookEntries_stops hirregular
    · rw [not_exists] at hobject
      rw [regular_other hobject, Bool.not_eq_true', Bool.not_eq_false] at hirregular
      rw [ofValue_other hobject, if_pos hirregular]
      exact ⟨_, rfl⟩

end Agenda

/-! ## The whole directory -/

/-- **What is loaded from a data directory, whatever its files hold.**

* The store is loaded unless a file of values stops it, and then holds every record and every value.
* The workflows are loaded unless they are not known yet and their file stops it; what is read is
  every entry that is a workflow, in stored order.
* The tasks are loaded unless their file stops it, and then hold every entry that is a task. -/
theorem Disk.loads_all_valid (d : Disk) (a : Archive) :
    ((∀ c : Collection, d.Legible c.file) →
        ∃ s, (Store.load d).1 = .ok s ∧ s.ReadFrom d) ∧
      ((¬ ∀ c : Collection, d.Legible c.file) → ∃ f, (Store.load d).1 = .error f) ∧
      (a.fresh?.isSome ∨ a.disk.Legible Archive.file →
        (Archive.load a).1 =
          .done (a.fresh?.getD ((a.disk.listOf Archive.file).filterMap Archive.workflow?))) ∧
      (¬ (a.fresh?.isSome ∨ a.disk.Legible Archive.file) → ∃ f, (Archive.load a).1 = .failed f) ∧
      (Agenda.RegularOn d →
        ∃ agenda, (Agenda.load d).1 = .ok agenda ∧ ∀ id,
          agenda.task? id = ((d.objectOf Agenda.file).get? id).bind (Task.ofEntry id)) ∧
      (¬ Agenda.RegularOn d → ∃ f, (Agenda.load d).1 = .error f) :=
  ⟨Store.load_of_legible, Store.load_stops, Archive.load_of_legible, Archive.load_stops,
    Agenda.load_of_regular, Agenda.load_stops⟩

/-! ## Torn files -/

namespace Tattered

/-- A directory of one file. -/
def holding (name : String) (content : List UInt8) : Disk := Disk.empty.put name (.file content)

/-- A task as an entry of a file of tasks. -/
def alarm : String := "\"alarm\": \x7b\"workflow_id\": \"quiet\", \"target_id\": \"1\"\x7d"

/-- A file of tasks with a task, and beside it an entry that is no map. -/
def tasks : Disk :=
  holding Agenda.file (Utf8.encode ("\x7b" ++ alarm ++ ", \"torn\": 5\x7d").toList)

/-- A directory with something in every file that is no good. -/
def disk : Disk :=
  let files := [
    (Collection.users.file, "\x7b\"ann\": \x7b\"points\": 3\x7d, \"torn\": 5\x7d"),
    (Collection.globals.file, "\x7bnot json"),
    (Archive.file, "[7, \x7b\"id\": \"quiet\"\x7d]"),
    (Agenda.file, "\x7b\"torn\": \x7b\x7d, " ++ alarm ++ "\x7d")]
  files.foldl (fun d file => d.put file.1 (.file (Utf8.encode file.2.toList))) Disk.empty

end Tattered

/-- What is good in the files of a tattered directory is loaded. -/
theorem Disk.loads_all_valid_tattered :
    (∀ c : Collection, Tattered.disk.Legible c.file) ∧
      Tattered.disk.Legible Archive.file ∧ Agenda.RegularOn Tattered.disk ∧
      (∃ s, (Store.load Tattered.disk).1 = .ok s ∧ (s.users.get? "ann").isSome = true ∧
        (s.users.get? "torn").isSome = false) ∧
      (∃ workflows, (Archive.load (.opened Tattered.disk)).1 = .done workflows ∧
        workflows.map Workflow.id = ["quiet"]) ∧
      ∃ agenda, (Agenda.load Tattered.disk).1 = .ok agenda ∧
        (agenda.task? "alarm").map Task.workflowId = some "quiet" ∧ agenda.task? "torn" = none := by
  have hvalues : ∀ c : Collection, Tattered.disk.Legible c.file := by
    intro c
    cases c <;> decide +kernel
  have hworkflows : Tattered.disk.Legible Archive.file := by decide +kernel
  have htasks : Agenda.RegularOn Tattered.disk := by decide +kernel
  obtain ⟨hstore, -, harchive, -, hagenda, -⟩ :=
    loads_all_valid Tattered.disk (.opened Tattered.disk)
  obtain ⟨s, hs, hread⟩ := hstore hvalues
  obtain ⟨agenda, ha, htask⟩ := hagenda htasks
  refine ⟨hvalues, hworkflows, htasks, ⟨s, hs, ?_, ?_⟩,
    ⟨_, harchive (.inr hworkflows), by decide +kernel⟩, agenda, ha, ?_, ?_⟩
  · rw [hread.users]
    decide +kernel
  · rw [hread.users]
    decide +kernel
  · rw [htask]
    decide +kernel
  · rw [htask]
    decide +kernel

/-- **A broken file can stop each reader**: a byte that is no text stops all three, and an entry
that is no map stops the reader of tasks, which then loads none of the others. -/
theorem Disk.loading_stopped :
    (Store.load (Tattered.holding Collection.users.file [0xff])).1 = .error .undecodable ∧
      (Archive.load (.opened (Tattered.holding Archive.file [0xff]))).1 = .failed .undecodable ∧
      (Agenda.load (Tattered.holding Agenda.file [0xff])).1 = .error .undecodable ∧
      ((Tattered.tasks.objectOf Agenda.file).get? "alarm").bind (Task.ofEntry "alarm") ≠ none ∧
      ∃ f, (Agenda.load Tattered.tasks).1 = .error f :=
  ⟨rfl, rfl, rfl, by decide +kernel, Agenda.load_stops (by decide +kernel)⟩

end ChatFlow
