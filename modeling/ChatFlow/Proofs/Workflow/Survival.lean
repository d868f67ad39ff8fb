import ChatFlow.Proofs.Workflow.Requests

/-!
# Entries that survive

A request writes the whole list of workflows again. What it does not name is still there afterwards,
in the same order, unless it never was a workflow: an entry that fails its check is passed over when
the list is read, so the next write leaves it out.

* `Archive.Current` — what is remembered, and is still fresh, is what would be read;
* `Archive.sound_of_readFile` — the workflows of a file are sound;
* `Archive.Request.sublist_written` — **a request keeps the workflows it spares** in the list it
  writes;
* `Archive.Request.survive` — **and they are loaded again from the file** after it.
-/

namespace ChatFlow.Archive

/-! ## What is read -/

/-- **What is remembered, and is still fresh, is what would be read.** -/
def Current (a : Archive) : Prop :=
  ∀ workflows, a.fresh? = some workflows → ∃ notes, readFile a.disk = .ok (workflows, notes)

theorem current_opened (d : Disk) : (opened d).Current := by
  intro workflows hfresh
  rw [fresh?_opened] at hfresh
  cases hfresh

/-- The workflows that a file holds are those loaded, and the file stays as it is. -/
theorem Current.run_load {a : Archive} (h : a.Current) {workflows : List Workflow}
    {notes : List Note} (hread : readFile a.disk = .ok (workflows, notes)) :
    ∃ b, load a = (.done workflows, b) ∧ b.disk = a.disk := by
  rcases hfresh : a.fresh? with _ | remembered
  · exact ⟨_, load_of_stale hfresh hread, rfl⟩
  · obtain ⟨others, hsame⟩ := h remembered hfresh
    obtain rfl : workflows = remembered := by
      rw [hread] at hsame
      exact congrArg Prod.fst (Except.ok.inj hsame)
    exact ⟨a, load_of_fresh hfresh, rfl⟩

/-- **The workflows of a file are sound**, whatever its text. -/
theorem sound_of_readFile {d : Disk} {workflows : List Workflow} {notes : List Note}
    (h : readFile d = .ok (workflows, notes)) : ∀ w ∈ workflows, w.Sound := by
  intro w hw
  obtain ⟨v, hv, hload⟩ := exists_of_readFile h w hw
  exact Workflow.sound_of_load hv hload

/-- Workflows that are loaded from their documents as they are are read back, in their order, from
any list of documents in which theirs are. -/
theorem sublist_workflowsOf {some all : List Workflow} (hsub : some.Sublist all)
    (h : ∀ w ∈ some, Workflow.load w.document = .ok w) :
    some.Sublist (workflowsOf (all.map Workflow.document)).1 := by
  induction hsub with
  | slnil => exact .slnil
  | cons x _ ih =>
    rw [List.map_cons, workflowsOf]
    rcases Workflow.load x.document with f | y
    · exact ih h
    · exact (ih h).cons y
  | cons_cons x _ ih =>
    rw [List.forall_mem_cons] at h
    rw [List.map_cons, workflowsOf, h.1]
    exact (ih h.2).cons_cons x

/-! ## What a request spares -/

namespace Request

/-- The id that a request is about, if it changes anything. -/
def named : Request → Option String
  | .load => none
  | .get _ => none
  | .upsert w => some w.id
  | .delete id => some id
  | .toggle id => some id

/-- **Whether a request is about another workflow.** -/
def spares (r : Request) (w : Workflow) : Bool := r.named ≠ some w.id

/-- **Whether the document of the workflow that is saved is an exact one**: maps with distinct keys,
and doubles as rounding leaves them. The number of digits of its integers is not limited. -/
def Lasting : Request → Prop
  | .upsert w => Json.Exact w.document
  | _ => True

theorem ne_of_spares {r : Request} {id : String} (hnamed : r.named = some id) {w : Workflow}
    (h : r.spares w = true) : w.id ≠ id := by
  intro hid
  exact of_decide_eq_true h (hnamed.trans (congrArg some hid.symm))

end Request

theorem sublist_place {keep : Workflow → Bool} {w : Workflow}
    (h : ∀ x, keep x = true → x.id ≠ w.id) (workflows : List Workflow) :
    (workflows.filter keep).Sublist (place w workflows) := by
  induction workflows with
  | nil => exact List.nil_sublist _
  | cons first rest ih =>
    rw [place]
    by_cases hkeep : keep first = true
    · rw [List.filter_cons_of_pos hkeep, if_neg (h first hkeep)]
      exact ih.cons_cons first
    · rw [List.filter_cons_of_neg hkeep]
      split
      · exact List.filter_sublist.cons w
      · exact ih.cons first

/-- **A request keeps the workflows it spares** in the list it writes. -/
theorem Request.sublist_written {r : Request} {workflows after : List Workflow}
    (h : r.written workflows = some after) : (workflows.filter r.spares).Sublist after := by
  cases r with
  | load => cases h
  | get id => cases h
  | upsert w =>
    obtain rfl := Option.some.inj h
    exact sublist_place (fun _ hx => ne_of_spares rfl hx) workflows
  | delete id =>
    rw [written] at h
    split at h
    · cases h
    · obtain rfl := Option.some.inj h
      exact List.monotone_filter_right workflows fun _ hx => decide_eq_true (ne_of_spares rfl hx)
  | toggle id =>
    obtain ⟨w, hw, rfl⟩ := Option.map_eq_some_iff.mp h
    have hid : w.id = id := by simpa using List.find?_some hw
    refine sublist_place (fun x hx => ?_) workflows
    exact (ne_of_spares rfl hx).trans_eq hid.symm

/-! ## What is still there -/

/-- **After a list was saved**, the file holds its documents, or what it held before. -/
theorem readFile_saveAll {workflows : List Workflow} (h : Json.Exact (documentOf workflows))
    (a : Archive) :
    readFile (saveAll workflows a).2.disk = .ok (workflowsOf (workflows.map Workflow.document)) ∨
      readFile (saveAll workflows a).2.disk = readFile a.disk := by
  rcases saveAll_cases workflows a with hsame | ⟨content, e, hcontent, ⟨hreplace, hrun⟩ |
    ⟨hreplace, hrun⟩⟩
  · exact .inr (by rw [hsame])
  · rw [hrun]
    exact .inl (readFile_of_written h hcontent (Disk.read_of_replace hreplace))
  · rw [hrun]
    exact .inr (readFile_congr (Disk.get?_of_replace_failed hreplace (by decide)))

theorem Request.exact_written {r : Request} (hr : r.Lasting) {workflows after : List Workflow}
    (h : ∀ w ∈ workflows, w.Sound) (hafter : r.written workflows = some after) :
    Json.Exact (documentOf after) := by
  rw [documentOf, Json.Exact, Json.itemsExact_iff, List.forall_mem_map]
  refine forall_written (P := fun w => Json.Exact w.document) ?_ ?_ ?_ hafter
  · rintro w rfl
    exact hr
  · intro w hw
    exact hw
  · intro w hw
    exact (h w hw).storable_document.exact

/-- **Workflows survive the requests that spare them**: those of the file whose node data hold finite
numbers only are loaded from it afterwards as they were, and in their order, whether the request
worked or not. -/
theorem Request.survive {a : Archive} (h : a.Current) {r : Request} (hr : r.Lasting)
    {workflows : List Workflow} {notes : List Note}
    (hread : readFile a.disk = .ok (workflows, notes)) :
    ∃ after later, readFile (r.act a).2.disk = .ok (after, later) ∧
      (workflows.filter fun w => r.spares w && w.finite).Sublist after := by
  obtain ⟨b, hload, hdisk⟩ := h.run_load hread
  have hsound := sound_of_readFile hread
  have hsame : readFile b.disk = .ok (workflows, notes) := by rw [hdisk, hread]
  rw [run_loaded hload]
  rcases hwritten : r.written workflows with _ | after
  · exact ⟨workflows, notes, hsame, List.filter_sublist⟩
  · rcases readFile_saveAll (exact_written hr hsound hwritten) b with hsaved | hleft
    · refine ⟨_, _, hsaved, sublist_workflowsOf ?_ ?_⟩
      · refine (List.monotone_filter_right workflows ?_).trans (sublist_written hwritten)
        intro w hw
        exact (Bool.and_eq_true_iff.mp hw).1
      · -- a sound workflow of finite numbers is settled
        intro w hw
        obtain ⟨hmem, hkeep⟩ := List.mem_filter.mp hw
        have hfinite := List.all_eq_true.mp (Bool.and_eq_true_iff.mp hkeep).2
        exact ((hsound w hmem).settled hfinite).load_document
    · exact ⟨workflows, notes, hleft.trans hsame, List.filter_sublist⟩

/-! ## A torn entry -/

namespace Torn

/-- An entry that is no workflow: its nodes are a number. -/
def entry : Value := .object [("id", .text "torn"), ("nodes", .number (.int 7))]

/-- A list with the torn entry and a gauge. -/
def entries (n : Number) : Value := .list [entry, Gauge.document (.number n)]

/-- The text of a file with the torn entry and a gauge. -/
def content (reading : String) : String :=
  "[\n  \x7b\n    \"id\": \"torn\",\n    \"nodes\": 7\n  \x7d,\n  \x7b\n    \"id\": \"gauge\"," ++
    "\n    \"nodes\": [\n      \x7b\n        \"id\": \"wait\",\n        \"type\": \"delay\"," ++
    "\n        \"data\": \x7b\n          \"reading\": " ++ reading ++
    "\n        \x7d\n      \x7d\n    ]\n  \x7d\n]"

/-- A directory with that file. -/
def disk (reading : String) : Disk :=
  Disk.empty.put file (.file (Utf8.encode (content reading).toList))

/-- The document of a workflow without nodes. -/
def quietDocument : Value := .object [("id", .text "quiet")]

/-- The workflow without nodes. -/
def quiet : Workflow := ⟨"quiet", "untitled", "exact", "", true, false, [], [], ⟨[], []⟩⟩

theorem write_whole : Json.write .stored (entries (.int 3)) = .ok (content "3") := by
  decide +kernel

theorem write_broken : Json.write .stored (entries (.double .nan)) = .ok (content "NaN") := by
  decide +kernel

theorem load_quiet : Workflow.load quietDocument = .ok quiet := rfl

theorem authored_quiet : quiet.Authored := by
  have hstorable : Json.Storable Number.Writable quietDocument :=
    .object (by simp [Table.keys]) (List.forall_mem_singleton.mpr (.text _))
  exact ⟨quietDocument, hstorable, load_quiet, fun _ hn => absurd hn List.not_mem_nil⟩

theorem readFile_disk {n : Number} (hn : n.Writable) {reading : String}
    (h : Json.write .stored (entries n) = .ok (content reading)) :
    readFile (disk reading) = .ok ([Gauge.workflow n], [.workflowSkipped (.text "torn")]) := by
  have hentry : Json.Storable Number.Writable entry := by
    refine .object (by simp [Table.keys]) ?_
    simp only [List.forall_mem_cons]
    exact ⟨.text _, .number (Number.writable_int (by decide)), List.forall_mem_nil _⟩
  have hstorable : Json.Storable Number.Writable (entries n) := by
    refine .list ?_
    simp only [List.forall_mem_cons]
    exact ⟨hentry, Gauge.storable_document (.number hn), List.forall_mem_nil _⟩
  have hread : (disk reading).read file = .content (Utf8.encode (content reading).toList) := rfl
  have hdocument := Disk.readDocument_of_read Json.Layout.readable_stored hstorable.exact h hread
  rw [readFile, hdocument]
  rfl

end Torn

/-- The gauge survives the quiet workflow, beside an entry that is torn. -/
theorem Request.survive_gauge :
    readFile (Torn.disk "3") =
        .ok ([Gauge.workflow (.int 3)], [.workflowSkipped (.text "torn")]) ∧
      ∃ after later,
        readFile ((upsert Torn.quiet).act (opened (Torn.disk "3"))).2.disk = .ok (after, later) ∧
          [Gauge.workflow (.int 3)].Sublist after := by
  have hread := Torn.readFile_disk (Number.writable_int (by decide)) Torn.write_whole
  have hlasting : (upsert Torn.quiet).Lasting :=
    Torn.authored_quiet.settled.sound.storable_document.exact
  have hkept : [Gauge.workflow (.int 3)].filter (fun w => (upsert Torn.quiet).spares w && w.finite) =
      [Gauge.workflow (.int 3)] :=
    List.filter_eq_self.mpr (List.forall_mem_singleton.mpr (by decide))
  have hsurvive := survive (current_opened (Torn.disk "3")) hlasting hread
  rw [hkept] at hsurvive
  exact ⟨hread, hsurvive⟩

/-- **Saving one workflow can lose an entry, and change another**: once the quiet workflow is saved,
the torn entry is not in the file any more, and the gauge has lost its number. -/
theorem entries_lost :
    ∃ a, (Request.upsert Torn.quiet).act (opened (Torn.disk "NaN")) = (.done (.saved true), a) ∧
      readFile (Torn.disk "NaN") =
        .ok ([Gauge.workflow (.double .nan)], [.workflowSkipped (.text "torn")]) ∧
      a.disk.readDocument file =
        .ok (.document (.list [Gauge.blank.document, Torn.quiet.document])) ∧
      readFile a.disk = .ok ([Gauge.blank, Torn.quiet], []) := by
  have hread := Torn.readFile_disk (n := .double .nan) trivial Torn.write_broken
  have hsettled : ∀ w ∈ [Gauge.blank, Torn.quiet], w.Settled := by
    simp only [List.forall_mem_cons]
    exact ⟨Gauge.authored_blank.settled, Torn.authored_quiet.settled, List.forall_mem_nil _⟩
  have hstorable := storable_documentOf hsettled
  obtain ⟨content, hcontent⟩ := hstorable.exists_write .stored
  -- the gauge is written as a blank one
  have hsame : documentOf [Gauge.workflow (.double .nan), Torn.quiet] =
      documentOf [Gauge.blank, Torn.quiet] :=
    congrArg (fun v => Value.list [v, Torn.quiet.document]) Gauge.document_eq
  have hflat : (Torn.disk "NaN").Flat := Disk.Flat.put (d := Disk.empty) nofun file _
  obtain ⟨e, hreplace⟩ := hflat.exists_replace rfl draft file content
  obtain ⟨b, hload, hdisk⟩ := (current_opened (Torn.disk "NaN")).run_load hread
  have hsave : saveAll [Gauge.workflow (.double .nan), Torn.quiet] b = (.done true,
      { b with
        disk := e
        remembered := some [Gauge.workflow (.double .nan), Torn.quiet]
        stamp := e.stamp? file }) := by
    rw [saveAll_eq b (hsame ▸ hcontent), hdisk]
    simp only [opened, hreplace]
  have hwritten : (Request.upsert Torn.quiet).written [Gauge.workflow (.double .nan)] =
      some [Gauge.workflow (.double .nan), Torn.quiet] := rfl
  have hrun := Request.run_loaded (r := .upsert Torn.quiet) hload
  rw [hwritten] at hrun
  simp only [hsave] at hrun
  have hfile := Disk.read_of_replace hreplace
  have hdocument :=
    Disk.readDocument_of_read Json.Layout.readable_stored hstorable.exact hcontent hfile
  exact ⟨_, hrun, hread, hdocument, readFile_of_read hsettled hcontent hfile⟩

end ChatFlow.Archive
