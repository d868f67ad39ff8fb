import ChatFlow.Proofs.Workflow.Survival

/-!
# What all workflows of an archive have in common

A property that all workflows at hand have is kept by every request, as long as the workflow that is
saved has it, and it does not get lost when a workflow is switched or written and loaded again.

* `Archive.Endures` — a property that lasts in this sense;
* `Archive.Stocked` — whether all workflows at hand have a property;
* `Archive.Stocked.act` — **requests keep it**;
* `Archive.Request.get?_act_of_ne` — requests leave other files alone.
-/

namespace ChatFlow.Archive

/-- **A property that workflows do not lose in the archive.** -/
structure Endures (P : Workflow → Prop) : Prop where
  /-- the document of such a workflow is an exact one -/
  exact {w : Workflow} (h : P w) : Json.Exact w.document
  /-- what is loaded from it has the property again -/
  reloaded {w x : Workflow} (h : P w) (hload : Workflow.load w.document = .ok x) : P x
  /-- the switch does not matter -/
  turned {w : Workflow} (h : P w) : P (Archive.turned w)

/-- **Whether all workflows at hand have a property**: those remembered, and those that the file
holds. -/
structure Stocked (P : Workflow → Prop) (a : Archive) : Prop where
  /-- those remembered -/
  remembered {workflows : List Workflow} (h : a.remembered = some workflows) : ∀ w ∈ workflows, P w
  /-- those that the file holds -/
  held {workflows : List Workflow} {notes : List Note}
    (h : readFile a.disk = .ok (workflows, notes)) : ∀ w ∈ workflows, P w

/-! ## Loading and saving -/

/-- An archive loads what it remembered or what its file holds, and remembers that. -/
theorem load_cases (a : Archive) :
    (load a).2 = a ∨ ∃ workflows notes, readFile a.disk = .ok (workflows, notes) ∧
      (load a).2 = ⟨a.disk, some workflows, a.currentStamp, a.log ++ notes⟩ := by
  rcases hfresh : a.fresh? with _ | remembered
  · rcases hread : readFile a.disk with f | ⟨workflows, notes⟩
    · rw [load_of_unread hfresh hread]
      exact .inl rfl
    · rw [load_of_stale hfresh hread]
      exact .inr ⟨workflows, notes, rfl, rfl⟩
  · rw [load_of_fresh hfresh]
    exact .inl rfl

theorem load_ne_hung (a b : Archive) : load a ≠ (.hung, b) := by
  unfold load
  split
  · exact nofun
  · split <;> exact nofun

theorem disk_load (a : Archive) : (load a).2.disk = a.disk := by
  rcases load_cases a with hsame | ⟨workflows, notes, -, hrun⟩
  · rw [hsame]
  · rw [hrun]

theorem get?_saveAll_of_ne {other : String} (hdraft : draft ≠ other) (hfile : file ≠ other)
    (workflows : List Workflow) (a : Archive) :
    (saveAll workflows a).2.disk.entries.get? other = a.disk.entries.get? other := by
  rcases saveAll_cases workflows a with hsame | ⟨content, e, -, ⟨hreplace, hrun⟩ |
    ⟨hreplace, hrun⟩⟩
  · rw [hsame]
  all_goals
    have hother := Disk.get?_replace_of_ne hdraft hfile content (d := a.disk)
    rw [hreplace] at hother
    rw [hrun]
    exact hother

theorem remembered_saveAll (workflows : List Workflow) (a : Archive) :
    (saveAll workflows a).2.remembered = some workflows ∨
      (saveAll workflows a).2.remembered = a.remembered := by
  rcases saveAll_cases workflows a with hsame | ⟨content, e, -, ⟨-, hrun⟩ | ⟨-, hrun⟩⟩
  · exact .inr (by rw [hsame])
  · exact .inl (by rw [hrun])
  · exact .inr (by rw [hrun])

section

variable {P : Workflow → Prop} {a : Archive} (h : a.Stocked P)

include h

/-- What is loaded has the property. -/
theorem Stocked.forall_load {b : Archive} {workflows : List Workflow}
    (hload : Archive.load a = (.done workflows, b)) : ∀ w ∈ workflows, P w :=
  Archive.forall_load (fun _ => h.remembered) (fun _ _ => h.held) hload

theorem Stocked.load : (Archive.load a).2.Stocked P := by
  rcases load_cases a with hsame | ⟨workflows, notes, hread, hrun⟩
  · rwa [hsame]
  · rw [hrun]
    refine ⟨?_, h.held⟩
    rintro others hothers
    obtain rfl := Option.some.inj hothers
    exact h.held hread

theorem Stocked.saveAll (hP : Endures P) {workflows : List Workflow}
    (hworkflows : ∀ w ∈ workflows, P w) : (Archive.saveAll workflows a).2.Stocked P := by
  have hexact : Json.Exact (documentOf workflows) := by
    rw [documentOf, Json.Exact, Json.itemsExact_iff, List.forall_mem_map]
    exact fun w hw => hP.exact (hworkflows w hw)
  constructor
  · intro others hothers
    rcases remembered_saveAll workflows a with hnew | hold
    · obtain rfl := Option.some.inj (hnew.symm.trans hothers)
      exact hworkflows
    · exact h.remembered (hold.symm.trans hothers)
  · intro others notes hread
    rcases readFile_saveAll hexact a with hnew | hold
    · -- each workflow of the new file was loaded from the document of one that was saved
      have hothers : others = (workflowsOf (workflows.map Workflow.document)).1 := by
        rw [hnew] at hread
        exact (congrArg Prod.fst (Except.ok.inj hread)).symm
      intro x hx
      rw [hothers] at hx
      obtain ⟨entry, hentry, hload⟩ := exists_of_workflowsOf x hx
      obtain ⟨w, hw, rfl⟩ := List.mem_map.mp hentry
      exact hP.reloaded (hworkflows w hw) hload
    · exact h.held (hold.symm.trans hread)

/-- **Requests keep what all workflows have in common**, if the one that is saved has it too. -/
theorem Stocked.act (hP : Endures P) {r : Request} (hsaved : ∀ w, r = .upsert w → P w) :
    (r.act a).2.Stocked P := by
  rcases hload : Archive.load a with ⟨workflows | f | _, b⟩
  · have hb := h.load
    rw [hload] at hb
    rw [Request.run_loaded hload]
    rcases hwritten : r.written workflows with _ | after
    · exact hb
    · exact hb.saveAll hP (Request.forall_written hsaved (fun _ => hP.turned)
        (h.forall_load hload) hwritten)
  · have hb := h.load
    rw [hload] at hb
    rwa [r.run_failed hload]
  · exact absurd hload (load_ne_hung a b)

end

/-- **Requests leave other files alone.** -/
theorem Request.get?_act_of_ne {other : String} (hdraft : draft ≠ other) (hfile : file ≠ other)
    (r : Request) (a : Archive) :
    (r.act a).2.disk.entries.get? other = a.disk.entries.get? other := by
  rcases hload : Archive.load a with ⟨workflows | f | _, b⟩
  · have hdisk := disk_load a
    rw [hload] at hdisk
    rw [run_loaded hload]
    rcases r.written workflows with _ | after
    · rw [hdisk]
    · rw [get?_saveAll_of_ne hdraft hfile, hdisk]
  · have hdisk := disk_load a
    rw [hload] at hdisk
    rw [r.run_failed hload, hdisk]
  · exact absurd hload (load_ne_hung a b)

end ChatFlow.Archive
