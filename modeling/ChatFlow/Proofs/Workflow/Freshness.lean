import ChatFlow.Proofs.Workflow.Requests

/-!
# The archive beside other hands

The file of workflows may be written, removed or replaced by other hands while an archive is open.
What the archive loads is always what an archive would load that is opened at that moment.

* `Archive.Step` — what can happen: requests, some of whose writes are refused, and other hands;
* `Archive.coherent_after` — what is remembered stays right, whatever happens;
* `Archive.load_eq_load_opened` — **an open archive loads what a new one would load**.
-/

namespace ChatFlow.Archive

/-! ## What can happen -/

/-- **One thing that happens** to an open archive or its directory. -/
inductive Step where
  /-- a request -/
  | request (r : Request)
  /-- a whole list saved -/
  | saveAll (workflows : List Workflow)
  /-- the archive opened again -/
  | reopening
  /-- a file written by another hand, where there may have been anything -/
  | write (name : String) (bytes : List UInt8)
  /-- a directory made by another hand, where there may have been anything -/
  | makeDirectory (name : String)
  /-- whatever there was under a name removed -/
  | remove (name : String)
  /-- from now on nothing can be written under these names -/
  | lock (names : List String)

/-- **What a step makes of the archive.** -/
def Step.run : Step → Archive → Archive
  | .request r, a => (r.act a).2
  | .saveAll workflows, a => (Archive.saveAll workflows a).2
  | .reopening, a => opened a.disk
  | .write name bytes, a => { a with disk := a.disk.put name (.file bytes) }
  | .makeDirectory name, a => { a with disk := a.disk.put name .directory }
  | .remove name, a => { a with disk := a.disk.remove name }
  | .lock names, a => { a with disk := { a.disk with locked := names } }

/-- The archive after a series of steps, the first on an empty directory. -/
def after (steps : List Step) : Archive := steps.foldl (fun a step => step.run a) (opened Disk.empty)

/-- **Text whose numbers are finite**, where a document is shown of it. -/
def Finite (bytes : List UInt8) : Prop :=
  ∃ s, Utf8.decode? bytes = some s ∧
    ∀ v, Json.shown? (Json.readChars s) = some v → v.allFinite = true

/-- **What is asked of a step**: saved workflows are authored ones, and the file of workflows is
only written with text whose numbers are finite. -/
def Step.Authored : Step → Prop
  | .request r => r.Authored
  | .saveAll workflows => ∀ w ∈ workflows, w.Authored
  | .write name bytes => name = file → Finite bytes
  | _ => True

/-! ## The file -/

/-- A document whose numbers are finite holds settled workflows. -/
theorem legible_of_document {d : Disk} {v : Value} (hv : Json.Storable Number.Usual v)
    (hread : d.readDocument file = .ok (.document v)) : Legible d := by
  rw [Legible, readFile, hread]
  cases v with
  | list entries =>
    intro w hw
    obtain ⟨entry, hentry, hload⟩ := exists_of_workflowsOf w hw
    exact Workflow.settled_of_load (Json.storable_list_iff.mp hv entry hentry) hload
  | _ => exact List.forall_mem_nil _

/-- Text whose numbers are finite holds settled workflows. -/
theorem Finite.legible {d : Disk} {bytes : List UInt8} (h : Finite bytes)
    (hread : d.read file = .content bytes) : Legible d := by
  obtain ⟨s, hdecode, hfinite⟩ := h
  have husual {v : Value} (hv : Json.shown? (Json.readChars s) = some v) :
      Json.Storable Number.Usual v := (Json.storable_of_shown hv).usual (hfinite v hv)
  rcases hs : Json.readChars s with (_ | _ | shown) | v
  · have hbroken : d.readDocument file = .ok .broken := by
      rw [Disk.readDocument, hread]
      simp only [hdecode, hs]
    rw [Legible, readFile, hbroken]
    exact List.forall_mem_nil _
  · have hlimit : d.readDocument file = .error .digitLimit := by
      rw [Disk.readDocument, hread]
      simp only [hdecode, hs]
    rw [Legible, readFile, hlimit]
    rfl
  · refine legible_of_document (husual (by rw [hs]; rfl)) ?_
    rw [Disk.readDocument, hread]
    simp only [hdecode, hs]
  · refine legible_of_document (husual (by rw [hs]; rfl)) ?_
    rw [Disk.readDocument, hread]
    simp only [hdecode, hs]

/-- A directory in the place of the file holds no workflows. -/
theorem legible_of_unreadable {d : Disk} (h : d.read file = .unreadable) : Legible d := by
  rw [Legible, readFile, Disk.readDocument, h]
  exact List.forall_mem_nil _

/-! ## Steps -/

/-- An entry written by another hand. -/
theorem Coherent.put {a : Archive} (h : a.Coherent) (name : String) {entry : Nat → DiskEntry}
    (hstamp : ∀ s, (entry s).stamp = s)
    (hlegible : name = file → Legible (a.disk.put name entry)) :
    ({ a with disk := a.disk.put name entry } : Archive).Coherent := by
  have hget := Table.get?_insert a.disk.entries name file (entry a.disk.clock)
  refine h.moved ⟨h.stamped.put name hstamp, Nat.le_succ _, ?_⟩ ?_
  · by_cases hname : name = file
    · refine .inr (.inr ⟨a.disk.clock, ?_, le_rfl⟩)
      rw [Disk.stamp?, Disk.put, hget, if_pos hname]
      exact congrArg some (hstamp a.disk.clock)
    · rw [if_neg hname] at hget
      exact .inl hget
  · by_cases hname : name = file
    · exact hlegible hname
    · rw [if_neg hname] at hget
      exact h.legible.congr hget

/-- **Whatever happens, what is remembered stays right.** -/
theorem Coherent.step {a : Archive} (h : a.Coherent) {step : Step} (hstep : step.Authored) :
    (step.run a).Coherent := by
  cases step with
  | request r => exact h.act hstep
  | saveAll workflows =>
    obtain ⟨content, b, hrun, -, hb, -⟩ := run_saveAll h fun w hw => (hstep w hw).settled
    rw [Step.run, hrun]
    exact hb
  | reopening => exact coherent_opened h.stamped h.legible
  | write name bytes =>
    refine h.put name (fun _ => rfl) fun hname => (hstep hname).legible ?_
    rw [Disk.read, Disk.put, Table.get?_insert, if_pos hname]
  | makeDirectory name =>
    refine h.put name (fun _ => rfl) fun hname => legible_of_unreadable ?_
    rw [Disk.read, Disk.put, Table.get?_insert, if_pos hname]
  | remove name =>
    have hget := Table.get?_erase h.stamped.keys name file
    by_cases hname : name = file
    · rw [if_pos hname] at hget
      exact h.moved ⟨h.stamped.remove name, le_rfl, .inr (.inl hget)⟩ (legible_missing hget)
    · rw [if_neg hname] at hget
      exact h.moved ⟨h.stamped.remove name, le_rfl, .inl hget⟩ (h.legible.congr hget)
  | lock names => exact h.moved ⟨⟨h.stamped.keys, h.stamped.past⟩, le_rfl, .inl rfl⟩ h.legible

theorem coherent_after {steps : List Step} (h : ∀ step ∈ steps, step.Authored) :
    (after steps).Coherent := by
  suffices hall : ∀ a : Archive, a.Coherent →
      (steps.foldl (fun a step => step.run a) a).Coherent from
    hall _ (coherent_opened Disk.stamped_empty (legible_missing rfl))
  induction steps with
  | nil => exact fun a ha => ha
  | cons step rest ih =>
    intro a ha
    exact ih (fun s hs => h s (List.mem_cons_of_mem _ hs)) _ (ha.step (h step List.mem_cons_self))

/-! ## Loading -/

/-- **An open archive loads what a new one would load**, whatever happened to its directory. Where
the file holds an integer past the digit limit, neither loads anything. -/
theorem load_eq_load_opened {steps : List Step} (h : ∀ step ∈ steps, step.Authored) :
    (∃ workflows, (load (after steps)).1 = .done workflows ∧
        (load (opened (after steps).disk)).1 = .done workflows) ∨
      ((load (after steps)).1 = .failed .digitLimit ∧
        (load (opened (after steps).disk)).1 = .failed .digitLimit) := by
  have hold := coherent_after h
  have hnew := coherent_opened hold.stamped hold.legible
  rcases hread : readFile (after steps).disk with f | ⟨workflows, notes⟩
  · have hlimit : f = .digitLimit := by
      have hlegible := hold.legible
      rwa [Legible, hread] at hlegible
    rw [run_load_failed hold hread, run_load_failed hnew hread, hlimit]
    exact .inr ⟨rfl, rfl⟩
  · obtain ⟨b, hb, -⟩ := run_load hold hread
    obtain ⟨c, hc, -⟩ := run_load hnew hread
    exact .inl ⟨workflows, by rw [hb], by rw [hc]⟩

end ChatFlow.Archive

namespace ChatFlow.Gauge

open Archive

/-- A gauge that is saved, written over by another hand, removed, saved once more, and then again
where that is refused. -/
def steps : List Step :=
  [.request (.upsert (workflow (.double (Double.ofInt 7)))), .write file [0x5b, 0x5d],
    .request (.get "gauge"), .makeDirectory file, .request .load, .remove file,
    .request (.upsert (workflow (.double (Double.ofInt 7)))), .lock [file],
    .request (.upsert (workflow (.double (Double.ofInt 8))))]

/-- A gauge that is saved with a number that is not finite. -/
def brokenSteps : List Step := [.request (.upsert (workflow (.double .nan)))]

end ChatFlow.Gauge

namespace ChatFlow.Archive

theorem load_eq_load_opened_gauge :
    (∃ workflows, (load (after Gauge.steps)).1 = .done workflows ∧
        (load (opened (after Gauge.steps).disk)).1 = .done workflows) ∨
      ((load (after Gauge.steps)).1 = .failed .digitLimit ∧
        (load (opened (after Gauge.steps).disk)).1 = .failed .digitLimit) := by
  have hempty : Finite [0x5b, 0x5d] := by
    refine ⟨['[', ']'], rfl, fun v hv => ?_⟩
    obtain rfl := Option.some.inj (hv : some (.list []) = some v)
    rfl
  have hseven :=
    Gauge.authored_workflow (n := .double (Double.ofInt 7)) (Double.canonical_ofInt 7) rfl
  have height :=
    Gauge.authored_workflow (n := .double (Double.ofInt 8)) (Double.canonical_ofInt 8) rfl
  refine load_eq_load_opened ?_
  simp only [Gauge.steps, List.forall_mem_cons]
  exact ⟨hseven, fun _ => hempty, trivial, trivial, trivial, trivial, hseven, trivial, height,
    nofun⟩

/-- A number among the parameters of a node that is not finite is remembered, but written as
nothing: an archive that is opened again does not know it. -/
theorem remembered_number_differs :
    Workflow.load (Gauge.document (.double .nan)) = .ok (Gauge.workflow (.double .nan)) ∧
      (load (after Gauge.brokenSteps)).1 ≠ (load (opened (after Gauge.brokenSteps).disk)).1 := by
  obtain ⟨b, hrun, hfresh, hread⟩ := upsert_broken
  have hafter : after Gauge.brokenSteps = b := congrArg Prod.snd hrun
  refine ⟨rfl, fun h => ?_⟩
  rw [hafter, load_of_fresh hfresh, load_of_stale (fresh?_opened b.disk) hread] at h
  exact Gauge.workflow_ne_blank _ (List.head_eq_of_cons_eq (Outcome.done.inj h))

end ChatFlow.Archive
