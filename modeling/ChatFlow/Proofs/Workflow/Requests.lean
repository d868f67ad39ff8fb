import ChatFlow.Proofs.Acts
import ChatFlow.Proofs.Files
import ChatFlow.Proofs.Workflow.Reloading
import ChatFlow.Workflow.Archive

/-!
# Requests to the archive

What the archive remembers is what the file of workflows holds, as long as the file's stamp is the
remembered one. Each request keeps this, so its answer can be read off the file alone.

* `Archive.Coherent` — what is remembered is what would be read again;
* `Archive.Coherent.moved` — **a change of the directory keeps this**, because its stamp is new;
* `Archive.run_load`, `Archive.run_saveAll` — what is loaded is what the file holds, and what was
  saved is what it holds then;
* `Archive.Request.run_act_none`, `Archive.Request.run_act_some` — **what a request comes to**: the
  list it writes, and its answer;
* `Archive.Coherent.act` — requests keep what is remembered right.
-/

namespace ChatFlow.Archive

/-! ## What the file holds -/

theorem workflowsOf_documents {workflows : List Workflow} (h : ∀ w ∈ workflows, w.Settled) :
    workflowsOf (workflows.map Workflow.document) = (workflows, []) := by
  induction workflows with
  | nil => rfl
  | cons w rest ih =>
    have hw := (h w List.mem_cons_self).load_document
    rw [List.map_cons, workflowsOf, ih fun x hx => h x (List.mem_cons_of_mem _ hx), hw]

/-- The workflows of a list come from its entries. -/
theorem exists_of_workflowsOf {entries : List Value} :
    ∀ w ∈ (workflowsOf entries).1, ∃ entry ∈ entries, Workflow.load entry = .ok w := by
  induction entries with
  | nil => exact nofun
  | cons entry rest ih =>
    intro w hw
    rw [workflowsOf] at hw
    rcases hload : Workflow.load entry with f | x
    · rw [hload] at hw
      obtain ⟨other, hother, hread⟩ := ih w hw
      exact ⟨other, List.mem_cons_of_mem _ hother, hread⟩
    · rw [hload] at hw
      rcases List.mem_cons.mp hw with rfl | hrest
      · exact ⟨entry, List.mem_cons_self, hload⟩
      · obtain ⟨other, hother, hread⟩ := ih w hrest
        exact ⟨other, List.mem_cons_of_mem _ hother, hread⟩

theorem storable_documentOf {workflows : List Workflow} (h : ∀ w ∈ workflows, w.Settled) :
    Json.Storable Number.Writable (documentOf workflows) :=
  .list (List.forall_mem_map.mpr fun w hw => (h w hw).sound.storable_document)

/-- **What the file holds after its list was written** are the workflows that their documents are
loaded as. -/
theorem readFile_of_written {d : Disk} {workflows : List Workflow} {content : String}
    (hexact : Json.Exact (documentOf workflows))
    (hcontent : Json.write .stored (documentOf workflows) = .ok content)
    (hread : d.read file = .content (Utf8.encode content.toList)) :
    readFile d = .ok (workflowsOf (workflows.map Workflow.document)) := by
  have hdocument := Disk.readDocument_of_read Json.Layout.readable_stored hexact hcontent hread
  rw [readFile, hdocument]
  rfl

/-- **Settled workflows are read from their file as they were.** -/
theorem readFile_of_read {d : Disk} {workflows : List Workflow} {content : String}
    (h : ∀ w ∈ workflows, w.Settled)
    (hcontent : Json.write .stored (documentOf workflows) = .ok content)
    (hread : d.read file = .content (Utf8.encode content.toList)) :
    readFile d = .ok (workflows, []) := by
  rw [readFile_of_written (storable_documentOf h).exact hcontent hread, workflowsOf_documents h]

theorem readFile_congr {d e : Disk} (h : e.entries.get? file = d.entries.get? file) :
    readFile e = readFile d := by
  rw [readFile, readFile, Disk.readDocument, Disk.readDocument, Disk.read, Disk.read, h]

/-- **The workflows of a file are loaded from documents**, whatever its text. -/
theorem exists_of_readFile {d : Disk} {workflows : List Workflow} {notes : List Note}
    (h : readFile d = .ok (workflows, notes)) :
    ∀ w ∈ workflows, ∃ v, Json.Storable Number.Writable v ∧ Workflow.load v = .ok w := by
  obtain ⟨held, hheld, h⟩ := exists_of_bind_ok h
  rcases held with _ | _ | v
  · cases h
    exact nofun
  · cases h
    exact nofun
  · have hv := Disk.storable_of_readDocument hheld
    cases v with
    | list entries =>
      intro w hw
      have hworkflows : workflowsOf entries = (workflows, notes) := Except.ok.inj h
      rw [show workflows = (workflowsOf entries).1 by rw [hworkflows]] at hw
      obtain ⟨entry, hentry, hload⟩ := exists_of_workflowsOf w hw
      exact ⟨entry, Json.storable_list_iff.mp hv entry hentry, hload⟩
    | _ =>
      cases h
      exact nofun

theorem readFile_missing {d : Disk} (h : d.entries.get? file = none) :
    readFile d = .ok ([], []) := by
  rw [readFile, Disk.readDocument, Disk.read, h]
  rfl

/-- **Whether the file is text with settled workflows only.** Text can still hold an integer past
the digit limit, and nothing is read then. -/
def Legible (d : Disk) : Prop :=
  match readFile d with
  | .ok (workflows, _) => ∀ w ∈ workflows, w.Settled
  | .error f => f = .digitLimit

theorem Legible.settled {d : Disk} (h : Legible d) {workflows : List Workflow} {notes : List Note}
    (hread : readFile d = .ok (workflows, notes)) : ∀ w ∈ workflows, w.Settled := by
  rwa [Legible, hread] at h

theorem Legible.congr {d e : Disk} (h : Legible d)
    (hsame : e.entries.get? file = d.entries.get? file) : Legible e := by
  rwa [Legible, readFile_congr hsame]

theorem legible_missing {d : Disk} (h : d.entries.get? file = none) : Legible d := by
  rw [Legible, readFile_missing h]
  exact nofun

/-! ## What is remembered -/

/-- **What is remembered is what would be read again.** -/
structure Coherent (a : Archive) : Prop where
  /-- the next stamp is new -/
  stamped : a.disk.Stamped
  /-- the file holds settled workflows -/
  legible : Legible a.disk
  /-- the remembered stamp was given out -/
  past {s : Nat} (h : a.stamp = some s) : s < a.disk.clock
  /-- where there was no file, nothing is remembered -/
  blank {workflows : List Workflow} (h : a.stamp = none) (hr : a.remembered = some workflows) :
    workflows = []
  /-- what is still fresh is what the file holds -/
  current {workflows : List Workflow} (h : a.fresh? = some workflows) :
    ∃ notes, readFile a.disk = .ok (workflows, notes)

theorem fresh?_opened (d : Disk) : (opened d).fresh? = none := by
  unfold fresh? opened
  split <;> rfl

/-- An archive before anything was read remembers nothing. -/
theorem coherent_opened {d : Disk} (hstamped : d.Stamped) (hlegible : Legible d) :
    (opened d).Coherent :=
  ⟨hstamped, hlegible, nofun, nofun, fun h => by rw [fresh?_opened] at h; cases h⟩

/-- An archive that remembers what the file holds now. -/
theorem coherent_read {d : Disk} (hstamped : d.Stamped) (hlegible : Legible d)
    {workflows : List Workflow} {notes : List Note}
    (hread : readFile d = .ok (workflows, notes)) (log : List Note) :
    Coherent ⟨d, some workflows, d.stamp? file, log⟩ where
  stamped := hstamped
  legible := hlegible
  past := hstamped.stamp_lt
  blank {others} hnone hremembered := by
    have hgone : d.entries.get? file = none := Option.map_eq_none_iff.mp hnone
    rw [readFile_missing hgone] at hread
    rw [← Option.some.inj hremembered]
    exact (congrArg Prod.fst (Except.ok.inj hread)).symm
  current {others} hfresh := by
    have hsame : some workflows = some others := by
      rw [← hfresh, fresh?]
      exact (if_pos rfl).symm
    exact ⟨notes, Option.some.inj hsame ▸ hread⟩

/-- **A change by which a reader of the file sees whether it changed.** -/
structure Moved (d e : Disk) : Prop where
  /-- the next stamp is new -/
  stamped : e.Stamped
  /-- stamps are not given out again -/
  clock : d.clock ≤ e.clock
  /-- the file is as it was, or gone, or has a new stamp -/
  entry : e.entries.get? file = d.entries.get? file ∨ e.entries.get? file = none ∨
    ∃ s, e.stamp? file = some s ∧ d.clock ≤ s

/-- **A change of the directory keeps the archive coherent.** -/
theorem Coherent.moved {a : Archive} (h : a.Coherent) {e : Disk} (hmoved : Moved a.disk e)
    (hlegible : Legible e) : ({ a with disk := e } : Archive).Coherent where
  stamped := hmoved.stamped
  legible := hlegible
  past hs := (h.past hs).trans_le hmoved.clock
  blank := h.blank
  current {workflows} hfresh := by
    unfold fresh? currentStamp at hfresh
    split at hfresh
    · next hstamp =>
      rcases hmoved.entry with hsame | hgone | ⟨s, hs, hnew⟩
      · rw [readFile_congr hsame]
        refine h.current ?_
        have hstamp' : a.disk.stamp? file = a.stamp := by
          rw [← hstamp, Disk.stamp?, Disk.stamp?, hsame]
        rwa [fresh?, currentStamp, if_pos hstamp']
      · have hnone : a.stamp = none := by
          rw [← hstamp, Disk.stamp?, hgone]
          rfl
        rw [h.blank hnone hfresh]
        exact ⟨[], readFile_missing hgone⟩
      · have hsome : a.stamp = some s := by rw [← hstamp, hs]
        exact absurd (h.past hsome) (not_lt.mpr hnew)
    · cases hfresh

/-! ## Loading and saving -/

theorem load_of_fresh {a : Archive} {workflows : List Workflow} (h : a.fresh? = some workflows) :
    load a = (.done workflows, a) := by
  rw [load, h]

theorem load_of_stale {a : Archive} (h : a.fresh? = none) {workflows : List Workflow}
    {notes : List Note} (hread : readFile a.disk = .ok (workflows, notes)) :
    load a = (.done workflows,
      ⟨a.disk, some workflows, a.disk.stamp? file, a.log ++ notes⟩) := by
  rw [load, h]
  simp only [hread]
  rfl

theorem load_of_unread {a : Archive} (h : a.fresh? = none) {f : Fault}
    (hread : readFile a.disk = .error f) : load a = (.failed f, a) := by
  rw [load, h]
  simp only [hread]

/-- **What holds of the workflows remembered, and of those that the file holds**, holds of those
loaded. -/
theorem forall_load {P : Workflow → Prop} {a b : Archive}
    (hremembered : ∀ workflows, a.remembered = some workflows → ∀ w ∈ workflows, P w)
    (hfile : ∀ workflows notes, readFile a.disk = .ok (workflows, notes) → ∀ w ∈ workflows, P w)
    {workflows : List Workflow} (h : load a = (.done workflows, b)) : ∀ w ∈ workflows, P w := by
  rcases hfresh : a.fresh? with _ | others
  · rcases hread : readFile a.disk with f | ⟨others, notes⟩
    · rw [load_of_unread hfresh hread] at h
      cases h
    · rw [load_of_stale hfresh hread] at h
      cases h
      exact hfile _ _ hread
  · rw [load_of_fresh hfresh] at h
    cases h
    refine hremembered _ ?_
    rw [fresh?] at hfresh
    split at hfresh
    · exact hfresh
    · cases hfresh

/-- What was loaded is loaded again. -/
theorem load_load (a : Archive) : (load (load a).2).1 = (load a).1 := by
  rcases hfresh : a.fresh? with _ | remembered
  · rcases hread : readFile a.disk with f | ⟨workflows, notes⟩
    · have hload := load_of_unread hfresh hread
      rw [hload, hload]
    · have hagain : fresh? ⟨a.disk, some workflows, a.disk.stamp? file, a.log ++ notes⟩ =
          some workflows := if_pos rfl
      rw [load_of_stale hfresh hread, load_of_fresh hagain]
  · have hload := load_of_fresh hfresh
    rw [hload, hload]

/-- An archive loads what it remembers, or what its file holds. -/
theorem load_congr {a b : Archive} (hentry : b.disk.entries.get? file = a.disk.entries.get? file)
    (hremembered : b.remembered = a.remembered) (hstamp : b.stamp = a.stamp) :
    (load b).1 = (load a).1 := by
  have hfresh : b.fresh? = a.fresh? := by
    have hcurrent : b.currentStamp = a.currentStamp :=
      congrArg (Option.map DiskEntry.stamp) hentry
    rw [fresh?, fresh?, hcurrent, hstamp, hremembered]
  have hread : readFile b.disk = readFile a.disk := readFile_congr hentry
  rcases h : a.fresh? with _ | workflows
  · rcases hfile : readFile a.disk with f | ⟨workflows, notes⟩
    · rw [load_of_unread h hfile, load_of_unread (hfresh.trans h) (hread.trans hfile)]
    · rw [load_of_stale h hfile, load_of_stale (hfresh.trans h) (hread.trans hfile)]
  · rw [load_of_fresh h, load_of_fresh (hfresh.trans h)]

/-- **What is loaded is what the file holds.** -/
theorem run_load {a : Archive} (h : a.Coherent) {workflows : List Workflow} {notes : List Note}
    (hread : readFile a.disk = .ok (workflows, notes)) :
    ∃ b, load a = (.done workflows, b) ∧ b.disk = a.disk ∧ b.Coherent := by
  rcases hfresh : a.fresh? with _ | remembered
  · exact ⟨_, load_of_stale hfresh hread, rfl,
      coherent_read h.stamped h.legible hread (a.log ++ notes)⟩
  · obtain ⟨others, hsame⟩ := h.current hfresh
    obtain rfl : workflows = remembered := by
      rw [hread] at hsame
      exact congrArg Prod.fst (Except.ok.inj hsame)
    exact ⟨a, load_of_fresh hfresh, rfl, h⟩

theorem run_load_failed {a : Archive} (h : a.Coherent) {f : Fault}
    (hread : readFile a.disk = .error f) : load a = (.failed f, a) := by
  rcases hfresh : a.fresh? with _ | remembered
  · exact load_of_unread hfresh hread
  · obtain ⟨notes, hsame⟩ := h.current hfresh
    rw [hread] at hsame
    cases hsame

/-- How a list with a written form is saved. -/
theorem saveAll_eq (a : Archive) {workflows : List Workflow} {content : String}
    (hcontent : Json.write .stored (documentOf workflows) = .ok content) :
    saveAll workflows a = match a.disk.replace draft file content with
      | (true, disk) =>
        (.done true, { a with disk, remembered := some workflows, stamp := disk.stamp? file })
      | (false, disk) => (.done false, { a with disk, log := a.log ++ [.workflowsUnsaved] }) :=
  Act.run_bind_done (Act.run_of_ok hcontent a)

/-- **What a save leaves behind**: nothing is changed where the list has no written form; or the file
is replaced and the list remembered; or the replacement failed. -/
theorem saveAll_cases (workflows : List Workflow) (a : Archive) :
    (saveAll workflows a).2 = a ∨ ∃ content e,
      Json.write .stored (documentOf workflows) = .ok content ∧
        (a.disk.replace draft file content = (true, e) ∧ (saveAll workflows a).2 =
            { a with disk := e, remembered := some workflows, stamp := e.stamp? file } ∨
          a.disk.replace draft file content = (false, e) ∧ (saveAll workflows a).2 =
            { a with disk := e, log := a.log ++ [.workflowsUnsaved] }) := by
  rcases hcontent : Json.write .stored (documentOf workflows) with f | content
  · left
    rw [saveAll, hcontent]
    rfl
  · right
    have hrun := saveAll_eq a hcontent
    rcases hreplace : a.disk.replace draft file content with ⟨_ | _, e⟩ <;> rw [hreplace] at hrun
    · exact ⟨content, e, rfl, .inr ⟨hreplace, by rw [hrun]⟩⟩
    · exact ⟨content, e, rfl, .inl ⟨hreplace, by rw [hrun]⟩⟩

/-- **What a save comes to**: what was saved is what the file holds then. -/
theorem run_saveAll {a : Archive} (h : a.Coherent) {workflows : List Workflow}
    (hworkflows : ∀ w ∈ workflows, w.Settled) :
    ∃ content b, saveAll workflows a = (.done (a.disk.replace draft file content).1, b) ∧
      b.disk = (a.disk.replace draft file content).2 ∧ b.Coherent ∧
      ((a.disk.replace draft file content).1 = true → readFile b.disk = .ok (workflows, [])) := by
  obtain ⟨content, hcontent⟩ := (storable_documentOf hworkflows).exists_write .stored
  have hstamped := h.stamped.replace draft file content
  have hclock := a.disk.clock_le_replace draft file content
  have hrun := saveAll_eq a hcontent
  refine ⟨content, ?_⟩
  rcases hreplace : a.disk.replace draft file content with ⟨_ | _, e⟩
  · -- the file is as it was, and so is what is remembered
    rw [hreplace] at hrun hstamped hclock
    have hsame := Disk.get?_of_replace_failed hreplace (show draft ≠ file by decide)
    have hmoved := h.moved ⟨hstamped, hclock, .inl hsame⟩ (h.legible.congr hsame)
    exact ⟨_, hrun, rfl,
      ⟨hmoved.stamped, hmoved.legible, hmoved.past, hmoved.blank, hmoved.current⟩,
      nofun⟩
  · rw [hreplace] at hrun hstamped
    have hread := readFile_of_read hworkflows hcontent (Disk.read_of_replace hreplace)
    refine ⟨_, hrun, rfl, coherent_read hstamped ?_ hread a.log, fun _ => hread⟩
    rw [Legible, hread]
    exact hworkflows

/-! ## Requests -/

/-- **What is asked of an archive.** -/
inductive Request where
  /-- all workflows -/
  | load
  /-- the workflow of an id -/
  | get (id : String)
  /-- a workflow saved -/
  | upsert (w : Workflow)
  /-- the workflows of an id deleted -/
  | delete (id : String)
  /-- the switch of a workflow turned -/
  | toggle (id : String)

/-- **What an archive answers.** -/
inductive Answer where
  /-- nothing -/
  | nothing
  /-- all workflows -/
  | all (workflows : List Workflow)
  /-- the workflow of an id, if there is one -/
  | one (w : Option Workflow)
  /-- whether that worked -/
  | saved (b : Bool)
  /-- the new state of a switch, if it was turned -/
  | switch (enabled : Option Bool)

namespace Request

/-- **A request carried out.** -/
def act : Request → Act Archive Answer
  | .load => do return .all (← Archive.load)
  | .get id => do return .one (← Archive.get id)
  | .upsert w => do return .saved (← Archive.upsert w)
  | .delete id => do return .saved (← Archive.delete id)
  | .toggle id => do return .switch (← Archive.toggle id)

/-- Whether a workflow that is saved is an authored one. -/
def Authored : Request → Prop
  | .upsert w => w.Authored
  | _ => True

/-- **The list that a request writes**, where the file holds a list. -/
def written : Request → List Workflow → Option (List Workflow)
  | .load, _ => none
  | .get _, _ => none
  | .upsert w, workflows => some (place w workflows)
  | .delete id, workflows =>
    let rest := workflows.filter fun w => w.id ≠ id
    if rest.length = workflows.length then none else some rest
  | .toggle id, workflows =>
    (workflows.find? fun w => w.id = id).map fun w => place (turned w) workflows

/-- **The answer to a request**, where the file holds a list and a new one was written or not. -/
def answer : Request → List Workflow → Bool → Answer
  | .load, workflows, _ => .all workflows
  | .get id, workflows, _ => .one (workflows.find? fun w => w.id = id)
  | .upsert _, _, done => .saved done
  | .delete _, _, done => .saved done
  | .toggle id, workflows, done =>
    .switch (if done then (workflows.find? fun w => w.id = id).map fun w => !w.enabled else none)

end Request

theorem forall_place {P : Workflow → Prop} {w : Workflow} (hw : P w) {workflows : List Workflow}
    (h : ∀ x ∈ workflows, P x) : ∀ x ∈ place w workflows, P x := by
  induction workflows with
  | nil => exact List.forall_mem_singleton.mpr hw
  | cons first rest ih =>
    rw [List.forall_mem_cons] at h
    rw [place]
    split
    · exact List.forall_mem_cons.mpr ⟨hw, h.2⟩
    · exact List.forall_mem_cons.mpr ⟨h.1, ih h.2⟩

/-- **What holds of the workflows of a file, and of the one that is saved**, holds of all that a
request writes, if turning the switch keeps it. -/
theorem Request.forall_written {P : Workflow → Prop} {r : Request}
    (hsaved : ∀ w, r = .upsert w → P w) (hturned : ∀ w, P w → P (turned w))
    {workflows after : List Workflow} (h : ∀ w ∈ workflows, P w)
    (hafter : r.written workflows = some after) : ∀ w ∈ after, P w := by
  cases r with
  | load => cases hafter
  | get id => cases hafter
  | upsert w =>
    obtain rfl := Option.some.inj hafter
    exact forall_place (hsaved w rfl) h
  | delete id =>
    rw [written] at hafter
    split at hafter
    · cases hafter
    · obtain rfl := Option.some.inj hafter
      exact fun w hw => h w (List.mem_of_mem_filter hw)
  | toggle id =>
    obtain ⟨w, hw, rfl⟩ := Option.map_eq_some_iff.mp hafter
    exact forall_place (hturned w (h w (List.mem_of_find?_eq_some hw))) h

/-- What a request writes is settled. -/
theorem Request.settled_written {r : Request} (hr : r.Authored) {workflows after : List Workflow}
    (h : ∀ w ∈ workflows, w.Settled) (hafter : r.written workflows = some after) :
    ∀ w ∈ after, w.Settled := by
  refine forall_written ?_ (fun w hw => hw.withEnabled _) h hafter
  rintro w rfl
  exact Workflow.Authored.settled hr

/-- A request is answered once the file is read, and then once the new list is written. -/
theorem Request.run_loaded {r : Request} {a b : Archive} {workflows : List Workflow}
    (hload : Archive.load a = (.done workflows, b)) :
    r.act a = match r.written workflows with
      | none => (.done (r.answer workflows false), b)
      | some after => ((saveAll after b).1.map (r.answer workflows), (saveAll after b).2) := by
  cases r with
  | load => exact Act.run_bind_done hload
  | get id =>
    have hget : Archive.get id a = (.done (workflows.find? fun w => w.id = id), b) :=
      Act.run_bind_done hload
    exact Act.run_bind_done hget
  | upsert w =>
    have hupsert : Archive.upsert w a = saveAll (place w workflows) b := Act.run_bind_done hload
    rw [act, Act.run_bind_return, hupsert]
    rfl
  | delete id =>
    have hdelete : Archive.delete id a =
        (let rest := workflows.filter fun w => w.id ≠ id
          if rest.length = workflows.length then pure false else saveAll rest : Act Archive Bool) b :=
      Act.run_bind_done hload
    rw [act, Act.run_bind_return, hdelete, written]
    dsimp only
    split <;> rfl
  | toggle id =>
    rcases hfound : workflows.find? fun w => w.id = id with _ | w
    · have htoggle : Archive.toggle id a = (.done none, b) := by
        refine (Act.run_bind_done hload).trans ?_
        rw [hfound]
        rfl
      rw [act, Act.run_bind_return, htoggle, written, hfound]
      rfl
    · have htoggle : Archive.toggle id a =
          ((saveAll (place (turned w) workflows) b).1.map fun saved =>
              if saved then some (!w.enabled) else none,
            (saveAll (place (turned w) workflows) b).2) := by
        refine (Act.run_bind_done hload).trans ?_
        rw [hfound]
        exact Act.run_bind_return ..
      rw [act, Act.run_bind_return, htoggle, written, hfound]
      dsimp only [Option.map]
      rcases (saveAll (place (turned w) workflows) b).1 with done | f | _
      · cases done <;> simp [Outcome.map, answer, hfound]
      · rfl
      · rfl

theorem Request.run_failed (r : Request) {a b : Archive} {f : Fault}
    (hload : Archive.load a = (.failed f, b)) : r.act a = (.failed f, b) := by
  cases r with
  | load => exact Act.run_bind_failed hload
  | get id =>
    have hget : Archive.get id a = (.failed f, b) := Act.run_bind_failed hload
    exact Act.run_bind_failed hget
  | upsert w =>
    have hupsert : Archive.upsert w a = (.failed f, b) := Act.run_bind_failed hload
    exact Act.run_bind_failed hupsert
  | delete id =>
    have hdelete : Archive.delete id a = (.failed f, b) := Act.run_bind_failed hload
    exact Act.run_bind_failed hdelete
  | toggle id =>
    have htoggle : Archive.toggle id a = (.failed f, b) := Act.run_bind_failed hload
    exact Act.run_bind_failed htoggle

section

variable {a : Archive} (h : a.Coherent) {r : Request} {workflows : List Workflow}
  {notes : List Note}
  (hread : readFile a.disk = .ok (workflows, notes))

include h hread

/-- **A request that writes nothing** leaves the directory as it is. -/
theorem Request.run_act_none (hwritten : r.written workflows = none) :
    ∃ b, r.act a = (.done (r.answer workflows false), b) ∧ b.disk = a.disk ∧ b.Coherent := by
  obtain ⟨b, hload, hdisk, hb⟩ := run_load h hread
  refine ⟨b, ?_, hdisk, hb⟩
  rw [run_loaded hload, hwritten]

/-- **A request that writes a list** is answered by whether that worked. -/
theorem Request.run_act_some (hr : r.Authored) {after : List Workflow}
    (hwritten : r.written workflows = some after) :
    ∃ content b, r.act a = (.done (r.answer workflows (a.disk.replace draft file content).1), b) ∧
      b.disk = (a.disk.replace draft file content).2 ∧ b.Coherent ∧
      ((a.disk.replace draft file content).1 = true → readFile b.disk = .ok (after, [])) := by
  obtain ⟨b, hload, hdisk, hb⟩ := run_load h hread
  obtain ⟨content, c, hsave, hc⟩ :=
    run_saveAll hb (settled_written hr (h.legible.settled hread) hwritten)
  rw [hdisk] at hsave hc
  refine ⟨content, c, ?_, hc⟩
  rw [run_loaded hload, hwritten]
  simp only [hsave, Outcome.map]

end

/-- **Requests keep the archive coherent.** -/
theorem Coherent.act {a : Archive} (h : a.Coherent) {r : Request} (hr : r.Authored) :
    (r.act a).2.Coherent := by
  rcases hread : readFile a.disk with f | ⟨workflows, notes⟩
  · rw [r.run_failed (run_load_failed h hread)]
    exact h
  · rcases hwritten : r.written workflows with _ | after
    · obtain ⟨b, hrun, -, hb⟩ := Request.run_act_none h hread hwritten
      rw [hrun]
      exact hb
    · obtain ⟨content, b, hrun, -, hb, -⟩ := Request.run_act_some h hread hr hwritten
      rw [hrun]
      exact hb

/-! ## A gauge without its number -/

/-- A gauge that is saved with a number that is not finite is remembered with it, but the file holds
one without. -/
theorem upsert_broken :
    ∃ b, (Request.upsert (Gauge.workflow (.double .nan))).act (opened Disk.empty) =
        (.done (.saved true), b) ∧
      b.fresh? = some [Gauge.workflow (.double .nan)] ∧
      readFile b.disk = .ok ([Gauge.blank], []) := by
  have hsettled : ∀ w ∈ [Gauge.blank], w.Settled :=
    List.forall_mem_singleton.mpr Gauge.authored_blank.settled
  have hsame : documentOf [Gauge.workflow (.double .nan)] = documentOf [Gauge.blank] :=
    congrArg (fun v => Value.list [v]) Gauge.document_eq
  obtain ⟨content, hcontent⟩ := (storable_documentOf hsettled).exists_write .stored
  obtain ⟨e, hreplace⟩ := Disk.Flat.exists_replace (d := Disk.empty) nofun rfl draft file content
  have hload : load (opened Disk.empty) = (.done [], ⟨Disk.empty, some [], none, []⟩) := rfl
  have hwritten : (Request.upsert (Gauge.workflow (.double .nan))).written [] =
      some [Gauge.workflow (.double .nan)] := rfl
  have hread := readFile_of_read hsettled hcontent (Disk.read_of_replace hreplace)
  rw [← hsame] at hcontent
  have hsave := saveAll_eq ⟨Disk.empty, some [], none, []⟩ hcontent
  rw [hreplace] at hsave
  rw [Request.run_loaded hload, hwritten]
  dsimp only
  rw [hsave]
  exact ⟨_, rfl, if_pos rfl, hread⟩

end ChatFlow.Archive
