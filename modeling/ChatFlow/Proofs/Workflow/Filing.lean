import ChatFlow.Proofs.Workflow.Shelf
import ChatFlow.Proofs.Workflow.Stock

/-!
# Filing a workflow

A workflow that is saved is filed among the others, or nothing shows of the attempt.

* `Archive.Unseen.trans`, `Archive.unseen_load` — changes that do not show, one after another;
* `Archive.Filed` — whether workflows are what is loaded, and what the file was written with;
* `Archive.upsert_cases` — **a sound workflow is filed, or else the change does not show**.
-/

namespace ChatFlow.Archive

/-! ## Changes that do not show -/

theorem Unseen.refl (a : Archive) : a.Unseen a := ⟨rfl, fun _ => rfl, rfl⟩

theorem Unseen.trans {a b c : Archive} (h : a.Unseen b) (h' : b.Unseen c) : a.Unseen c where
  load := h'.load.trans h.load
  get id := (h'.get id).trans (h.get id)
  content := h'.content.trans h.content

/-- Where the file is as it was and the same workflows are loaded, they are found as well. -/
theorem unseen_of_load {a b : Archive} (hload : (load b).1 = (load a).1)
    (hentry : b.disk.entries.get? file = a.disk.entries.get? file) : a.Unseen b where
  load := hload
  get id := by
    have hfound (c : Archive) : (Archive.get id c).1 =
        (load c).1.map fun workflows => workflows.find? fun w => w.id = id := by
      rw [Archive.get, Act.run_bind_return]
    rw [hfound, hfound, hload]
  content := Disk.read_congr hentry

/-- What is loaded is not changed by being loaded. -/
theorem unseen_load (a : Archive) : a.Unseen (load a).2 :=
  unseen_of_load (load_load a) (by rw [disk_load])

/-! ## Filing -/

/-- What is read from a file is sound, so an archive is stocked with sound workflows if it remembers
no others. -/
theorem stocked_of_remembered {a : Archive}
    (h : ∀ workflows, a.remembered = some workflows → ∀ w ∈ workflows, w.Sound) :
    a.Stocked Workflow.Sound :=
  ⟨h _, fun hread => sound_of_readFile hread⟩

/-- **Whether workflows are filed**: they are loaded, and the file was written with their list. -/
structure Filed (a : Archive) (workflows : List Workflow) : Prop where
  /-- they are loaded -/
  load : (Archive.load a).1 = .done workflows
  /-- the file holds their documents -/
  content : ∃ content, Json.write .stored (documentOf workflows) = .ok content ∧
    a.disk.read file = .content (Utf8.encode content.toList)

/-- **How a list of sound workflows is saved**: it is filed, or the change does not show. -/
theorem saveAll_sound (a : Archive) {workflows : List Workflow} (h : ∀ w ∈ workflows, w.Sound) :
    (∃ b, saveAll workflows a = (.done true, b) ∧ b.Filed workflows) ∨
      ∃ b, saveAll workflows a = (.done false, b) ∧ a.Unseen b := by
  have hstorable : Json.Storable Number.Writable (documentOf workflows) :=
    .list (List.forall_mem_map.mpr fun w hw => (h w hw).storable_document)
  obtain ⟨content, hcontent⟩ := hstorable.exists_write .stored
  have hrun := saveAll_eq a hcontent
  rcases hreplace : a.disk.replace draft file content with ⟨_ | _, e⟩ <;> rw [hreplace] at hrun
  · have hentry := Disk.get?_of_replace_failed hreplace (show draft ≠ file by decide)
    exact .inr ⟨_, hrun, unseen_of_load (load_congr hentry rfl rfl) hentry⟩
  · -- what was saved is remembered, with the stamp of the file
    have hfresh : fresh? { a with
        disk := e, remembered := some workflows, stamp := e.stamp? file } = some workflows := if_pos rfl
    exact .inl ⟨_, hrun, congrArg Prod.fst (load_of_fresh hfresh), content, hcontent,
      Disk.read_of_replace hreplace⟩

/-- **How a sound workflow is saved** in an archive of sound workflows: it is filed among those that
are loaded; or it could not be written, which does not show; or the archive cannot be loaded. -/
theorem upsert_cases {a : Archive} (h : a.Stocked Workflow.Sound) {w : Workflow} (hw : w.Sound) :
    (∃ workflows b, (load a).1 = .done workflows ∧ upsert w a = (.done true, b) ∧
      b.Filed (place w workflows)) ∨
    (∃ b, upsert w a = (.done false, b) ∧ a.Unseen b) ∨
    ∃ f b, (load a).1 = .failed f ∧ upsert w a = (.failed f, b) ∧ a.Unseen b := by
  have hunseen := unseen_load a
  rcases hload : load a with ⟨workflows | f | _, b⟩ <;> rw [hload] at hunseen
  · have hrun : upsert w a = saveAll (place w workflows) b := Act.run_bind_done hload
    rw [hrun]
    rcases saveAll_sound b (forall_place hw (h.forall_load hload)) with
      ⟨c, hsaved, hfiled⟩ | ⟨c, hfailed, hsame⟩
    · exact .inl ⟨workflows, c, rfl, hsaved, hfiled⟩
    · exact .inr (.inl ⟨c, hfailed, hunseen.trans hsame⟩)
  · exact .inr (.inr ⟨f, b, rfl, Act.run_bind_failed hload, hunseen⟩)
  · exact absurd hload (load_ne_hung a b)

/-- What is placed stands where the first of its id was. -/
theorem place_eq {w x : Workflow} {before after : List Workflow}
    (hbefore : ∀ y ∈ before, y.id ≠ w.id) (hid : x.id = w.id) :
    place x (before ++ w :: after) = before ++ x :: after := by
  induction before with
  | nil => exact if_pos hid.symm
  | cons y rest ih =>
    rw [List.forall_mem_cons] at hbefore
    rw [List.cons_append, place, if_neg fun h => hbefore.1 (h.trans hid), ih hbefore.2]
    rfl

end ChatFlow.Archive
