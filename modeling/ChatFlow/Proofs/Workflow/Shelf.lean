import ChatFlow.Proofs.Workflow.Requests

/-!
# The archive as an ordered map

An archive that no other hand touches is an ordered map from ids to workflows, whichever of its
writes fail: a write is done as a whole, or not at all.

* `Shelf` — the ordered map by itself;
* `Archive.Holds` — the archive holds the workflows of a shelf, and `Archive.Holds.act` — **each
  command answers and goes on as on the shelf**;
* `Archive.commands_as_on_shelf` — **so does a series of commands**, and what failed changed
  nothing.
-/

namespace ChatFlow

/-! ## The shelf -/

namespace Shelf

/-- Whether there is a workflow of an id. -/
def knows (id : String) (shelf : List Workflow) : Bool := shelf.any fun w => w.id = id

/-- **A workflow put** in the place of the one of its id, or else at the end. -/
def put (w : Workflow) (shelf : List Workflow) : List Workflow :=
  if knows w.id shelf then shelf.map fun x => if x.id = w.id then w else x else shelf ++ [w]

/-- **The workflow of an id taken away.** -/
def drop (id : String) (shelf : List Workflow) : List Workflow := shelf.filter fun w => w.id ≠ id

/-- **The switch of the workflow of an id turned**, and nothing else. -/
def flip (id : String) (shelf : List Workflow) : List Workflow :=
  shelf.map fun w => if w.id = id then { w with enabled := !w.enabled } else w

/-- The ids in order. -/
def ids (shelf : List Workflow) : List String := shelf.map Workflow.id

variable {shelf : List Workflow} {id : String} {w : Workflow}

theorem knows_iff : knows id shelf = true ↔ id ∈ ids shelf := by
  simp [knows, ids]

theorem ids_map {f : Workflow → Workflow} (h : ∀ x, (f x).id = x.id) :
    ids (shelf.map f) = ids shelf := by
  rw [ids, ids, List.map_map]
  exact List.map_congr_left fun x _ => h x

theorem ids_flip (id : String) (shelf : List Workflow) : ids (flip id shelf) = ids shelf :=
  ids_map fun x => by split <;> rfl

theorem nodup_put (h : (ids shelf).Nodup) (w : Workflow) : (ids (put w shelf)).Nodup := by
  unfold put
  split
  · rwa [ids_map]
    intro x
    split
    · next heq => exact heq.symm
    · rfl
  · next hnew =>
    rw [knows_iff] at hnew
    rw [ids, List.map_append]
    exact h.append (List.nodup_singleton _) (by simpa using hnew)

theorem nodup_drop (h : (ids shelf).Nodup) (id : String) : (ids (drop id shelf)).Nodup :=
  h.sublist (List.filter_sublist.map Workflow.id)

/-- Where ids are distinct, only one workflow is replaced. -/
theorem place_eq_put (h : (ids shelf).Nodup) (w : Workflow) :
    Archive.place w shelf = put w shelf := by
  induction shelf with
  | nil => rfl
  | cons x rest ih =>
    rw [ids, List.map_cons, List.nodup_cons] at h
    by_cases hx : x.id = w.id
    · have hrest : rest.map (fun y => if y.id = w.id then w else y) = rest := by
        have hother : ∀ y ∈ rest, (if y.id = w.id then w else y) = y := fun y hy =>
          if_neg fun heq => h.1 (List.mem_map.mpr ⟨y, hy, heq.trans hx.symm⟩)
        rw [List.map_congr_left hother, List.map_id']
      simp [Archive.place, put, knows, hx, hrest]
    · have hcons : knows w.id (x :: rest) = knows w.id rest := by simp [knows, hx]
      rw [Archive.place, if_neg hx, ih h.2, put, put, hcons]
      split
      · rw [List.map_cons, if_neg hx]
      · rfl

/-- Where ids are distinct, only one switch is turned. -/
theorem place_eq_flip (h : (ids shelf).Nodup) (hw : w ∈ shelf) :
    Archive.place (Archive.turned w) shelf = flip w.id shelf := by
  have hknown : knows w.id shelf = true := knows_iff.mpr (List.mem_map.mpr ⟨w, hw, rfl⟩)
  rw [place_eq_put h, put, flip]
  refine (if_pos hknown).trans (List.map_congr_left fun x hx => ?_)
  change (if x.id = w.id then Archive.turned w else x) = _
  split
  · next heq =>
    obtain rfl := List.inj_on_of_nodup_map h hx hw heq
    rfl
  · rfl

theorem filter_eq_iff : (shelf.filter fun w => w.id ≠ id).length = shelf.length ↔
    knows id shelf = false := by
  rw [List.length_filter_eq_length_iff]
  simp [knows]

end Shelf

namespace Archive

/-! ## Commands -/

/-- **What goes wrong with a write.** -/
inductive Trouble where
  /-- nothing -/
  | nothing
  /-- the new content cannot be written -/
  | opening
  /-- it cannot be put into its place -/
  | placing
  deriving DecidableEq

/-- The names that nothing can be written under. -/
def Trouble.names : Trouble → List String
  | .nothing => []
  | .opening => [draft]
  | .placing => [file]

/-- The directory in trouble. -/
def troubled (t : Trouble) (d : Disk) : Disk := { d with locked := t.names }

/-- **One command**: a request, with what goes wrong with its write, or the archive opened again. -/
inductive Command where
  /-- a request -/
  | request (r : Request) (t : Trouble)
  /-- the archive opened again -/
  | reopening

/-- **A command carried out.** -/
def Command.act : Command → Act Archive Answer
  | .request r t => Act.inside (fun a => { a with disk := troubled t a.disk })
      (fun b _ => { b with disk := troubled .nothing b.disk }) r.act
  | .reopening => fun a => (.done .nothing, opened a.disk)

/-- **A command on the shelf.** A write that fails is answered with no, or with nothing. -/
def Command.onShelf : Command → List Workflow → Answer × List Workflow
  | .reopening, shelf => (.nothing, shelf)
  | .request .load _, shelf => (.all shelf, shelf)
  | .request (.get id) _, shelf => (.one (shelf.find? fun w => w.id = id), shelf)
  | .request (.upsert w) .nothing, shelf => (.saved true, Shelf.put w shelf)
  | .request (.delete id) .nothing, shelf =>
    if Shelf.knows id shelf then (.saved true, Shelf.drop id shelf) else (.saved false, shelf)
  | .request (.toggle id) .nothing, shelf =>
    (.switch ((shelf.find? fun w => w.id = id).map fun w => !w.enabled), Shelf.flip id shelf)
  | .request (.upsert _) _, shelf => (.saved false, shelf)
  | .request (.delete _) _, shelf => (.saved false, shelf)
  | .request (.toggle _) _, shelf => (.switch none, shelf)

/-- Whether a workflow that is saved is an authored one. -/
def Command.Authored : Command → Prop
  | .request r _ => r.Authored
  | .reopening => True

/-- **The answers to a series of commands**, and where they lead. -/
def answers : List Command → Archive → List (Outcome Answer) × Archive
  | [], a => ([], a)
  | c :: rest, a =>
    let (others, b) := answers rest (c.act a).2
    ((c.act a).1 :: others, b)

/-- The answers on the shelf, and the shelf at the end. -/
def answersOnShelf : List Command → List Workflow → List Answer × List Workflow
  | [], shelf => ([], shelf)
  | c :: rest, shelf =>
    let (others, last) := answersOnShelf rest (c.onShelf shelf).2
    ((c.onShelf shelf).1 :: others, last)

/-! ## Requests on the shelf -/

section

variable {shelf after : List Workflow} (h : (Shelf.ids shelf).Nodup) {r : Request}

/-- A request that writes nothing leaves the shelf as it is. -/
theorem onShelf_none (hwritten : r.written shelf = none) (t : Trouble) :
    (Command.request r t).onShelf shelf = (r.answer shelf false, shelf) := by
  cases r with
  | load => rfl
  | get id => rfl
  | upsert w => cases hwritten
  | delete id =>
    rw [Request.written] at hwritten
    split at hwritten
    · next hlength =>
      have hunknown := Shelf.filter_eq_iff.mp hlength
      cases t with
      | nothing => simp [Command.onShelf, hunknown, Request.answer]
      | opening => rfl
      | placing => rfl
    · cases hwritten
  | toggle id =>
    have hunknown : (shelf.find? fun w => w.id = id) = none := Option.map_eq_none_iff.mp hwritten
    have hflip : Shelf.flip id shelf = shelf := by
      have hother : ∀ w ∈ shelf,
          (if w.id = id then { w with enabled := !w.enabled } else w) = w := by
        intro w hw
        exact if_neg (by simpa using List.find?_eq_none.mp hunknown w hw)
      rw [Shelf.flip, List.map_congr_left hother, List.map_id']
    cases t with
    | nothing =>
      rw [Command.onShelf, hunknown, hflip]
      rfl
    | opening => rfl
    | placing => rfl

include h

/-- A request that writes a list puts it on the shelf, unless there is trouble. -/
theorem onShelf_some (hwritten : r.written shelf = some after) (t : Trouble) :
    (Command.request r t).onShelf shelf =
      if t = .nothing then (r.answer shelf true, after) else (r.answer shelf false, shelf) := by
  cases r with
  | load => cases hwritten
  | get id => cases hwritten
  | upsert w =>
    obtain rfl := Option.some.inj hwritten
    cases t with
    | nothing => rw [Command.onShelf, if_pos rfl, Shelf.place_eq_put h]; rfl
    | opening => rfl
    | placing => rfl
  | delete id =>
    rw [Request.written] at hwritten
    split at hwritten
    · cases hwritten
    · next hlength =>
      obtain rfl := Option.some.inj hwritten
      rw [Shelf.filter_eq_iff, Bool.not_eq_false] at hlength
      cases t with
      | nothing => rw [Command.onShelf, if_pos hlength, if_pos rfl]; rfl
      | opening => rfl
      | placing => rfl
  | toggle id =>
    obtain ⟨w, hw, rfl⟩ := Option.map_eq_some_iff.mp hwritten
    have hid : w.id = id := by simpa using List.find?_some hw
    cases t with
    | nothing =>
      rw [Command.onShelf, if_pos rfl, Shelf.place_eq_flip h (List.mem_of_find?_eq_some hw), hid]
      rfl
    | opening => rfl
    | placing => rfl

/-- Ids stay distinct. -/
theorem nodup_written (hwritten : r.written shelf = some after) : (Shelf.ids after).Nodup := by
  cases r with
  | load => cases hwritten
  | get id => cases hwritten
  | upsert w =>
    obtain rfl := Option.some.inj hwritten
    rw [Shelf.place_eq_put h]
    exact Shelf.nodup_put h w
  | delete id =>
    rw [Request.written] at hwritten
    split at hwritten
    · cases hwritten
    · obtain rfl := Option.some.inj hwritten
      exact Shelf.nodup_drop h id
  | toggle id =>
    obtain ⟨w, hw, rfl⟩ := Option.map_eq_some_iff.mp hwritten
    rwa [Shelf.place_eq_flip h (List.mem_of_find?_eq_some hw), Shelf.ids_flip]

end

/-! ## The archive holds a shelf -/

/-- **The archive holds the workflows of a shelf.** -/
structure Holds (a : Archive) (shelf : List Workflow) : Prop where
  /-- what is remembered is right -/
  coherent : a.Coherent
  /-- the file holds the workflows -/
  read : ∃ notes, readFile a.disk = .ok (shelf, notes)
  /-- there are files only -/
  flat : a.disk.Flat
  /-- nothing is locked between commands -/
  unlocked : a.disk.locked = []
  /-- ids are distinct -/
  distinct : (Shelf.ids shelf).Nodup

theorem holds_opened : (opened Disk.empty).Holds [] :=
  ⟨coherent_opened Disk.stamped_empty (legible_missing rfl), ⟨[], readFile_missing rfl⟩, nofun, rfl,
    List.nodup_nil⟩

/-- Trouble is no change of the files. -/
theorem Coherent.troubled {a : Archive} (h : a.Coherent) (t : Trouble) :
    ({ a with disk := Archive.troubled t a.disk } : Archive).Coherent :=
  h.moved ⟨⟨h.stamped.keys, h.stamped.past⟩, le_rfl, .inl rfl⟩ h.legible

/-- **A replacement works unless there is trouble.** -/
theorem replace_troubled {d : Disk} (h : d.Flat) (t : Trouble) (content : String) :
    ((troubled t d).replace draft file content).1 = decide (t = .nothing) := by
  have hflat : (troubled t d).Flat := h
  have hdraft : (troubled t d).refuses draft = t.names.contains draft := hflat.refuses draft
  have hfile (bytes : List UInt8) :
      ((troubled t d).put draft (.file bytes)).refuses file = t.names.contains file :=
    (hflat.put draft bytes).refuses file
  rw [Disk.replace_eq]
  simp only [hdraft, hfile]
  cases t <;> rfl

section

variable {a : Archive} {shelf : List Workflow} (h : a.Holds shelf) {r : Request} (t : Trouble)

include h

/-- A request that writes nothing does not touch the directory. -/
theorem Holds.act_none (hwritten : r.written shelf = none) :
    ∃ b, (Command.request r t).act a = (.done (r.answer shelf false), b) ∧ b.disk = a.disk ∧
      b.Holds shelf := by
  obtain ⟨notes, hread⟩ := h.read
  obtain ⟨b, hrun, hdisk, hb⟩ := Request.run_act_none (h.coherent.troubled t) hread hwritten
  have hsame : troubled .nothing b.disk = a.disk := by
    rw [hdisk, troubled, troubled, Trouble.names, ← h.unlocked]
  refine ⟨{ b with disk := troubled .nothing b.disk }, ?_, hsame, hb.troubled .nothing, ?_, ?_, rfl,
    h.distinct⟩
  · rw [Command.act, Act.run_inside, hrun]
  · rw [hsame]
    exact h.read
  · rw [hsame]
    exact h.flat

/-- A request that writes a list is carried out as a whole, or leaves the file as it was. -/
theorem Holds.act_some (hr : r.Authored) {after : List Workflow}
    (hwritten : r.written shelf = some after) :
    ∃ b, (Command.request r t).act a = (.done (r.answer shelf (t = .nothing)), b) ∧
      b.Holds (if t = .nothing then after else shelf) ∧
      (t ≠ .nothing → b.disk.entries.get? file = a.disk.entries.get? file) := by
  obtain ⟨notes, hread⟩ := h.read
  have hflat : (troubled t a.disk).Flat := h.flat
  obtain ⟨content, b, hrun, hdisk, hb, hdone⟩ :=
    Request.run_act_some (h.coherent.troubled t) hread hr hwritten
  have hworked := replace_troubled h.flat t content
  have hflat' : b.disk.Flat := by
    rw [hdisk]
    exact hflat.replace draft file content
  have hsame (ht : t ≠ .nothing) : b.disk.entries.get? file = a.disk.entries.get? file :=
    Disk.get?_of_replace_failed (d := troubled t a.disk)
      (Prod.ext (hworked.trans (decide_eq_false ht)) hdisk.symm) (by decide)
  rw [hworked] at hrun hdone
  refine ⟨{ b with disk := troubled .nothing b.disk }, ?_, ?_, hsame⟩
  · rw [Command.act, Act.run_inside, hrun]
  · by_cases ht : t = .nothing
    · rw [if_pos ht]
      exact ⟨hb.troubled .nothing, ⟨[], hdone (decide_eq_true ht)⟩, hflat', rfl,
        nodup_written h.distinct hwritten⟩
    · rw [if_neg ht]
      exact ⟨hb.troubled .nothing, ⟨notes, (readFile_congr (hsame ht)).trans hread⟩, hflat', rfl,
        h.distinct⟩

end

/-- **Each command answers and goes on as on the shelf.** -/
theorem Holds.act {a : Archive} {shelf : List Workflow} (h : a.Holds shelf) {c : Command}
    (hc : c.Authored) :
    ∃ b, c.act a = (.done (c.onShelf shelf).1, b) ∧ b.Holds (c.onShelf shelf).2 := by
  cases c with
  | reopening =>
    exact ⟨opened a.disk, rfl, coherent_opened h.coherent.stamped h.coherent.legible, h.read, h.flat,
      h.unlocked, h.distinct⟩
  | request r t =>
    rcases hwritten : r.written shelf with _ | after
    · obtain ⟨b, hrun, -, hb⟩ := h.act_none t hwritten
      rw [onShelf_none hwritten]
      exact ⟨b, hrun, hb⟩
    · obtain ⟨b, hrun, hb, -⟩ := h.act_some t hc hwritten
      rw [onShelf_some h.distinct hwritten]
      by_cases ht : t = .nothing
      · rw [if_pos ht] at hb ⊢
        exact ⟨b, by rw [hrun, decide_eq_true ht], hb⟩
      · rw [if_neg ht] at hb ⊢
        exact ⟨b, by rw [hrun, decide_eq_false ht], hb⟩

/-- **A series of commands is answered, and ends, as on the shelf.** -/
theorem Holds.answers {a : Archive} {shelf : List Workflow} (h : a.Holds shelf)
    {commands : List Command} (hcommands : ∀ c ∈ commands, c.Authored) :
    (Archive.answers commands a).1 = (answersOnShelf commands shelf).1.map .done ∧
      (Archive.answers commands a).2.Holds (answersOnShelf commands shelf).2 := by
  induction commands generalizing a shelf with
  | nil => exact ⟨rfl, h⟩
  | cons c rest ih =>
    obtain ⟨b, hrun, hb⟩ := h.act (hcommands c List.mem_cons_self)
    obtain ⟨hanswers, hlast⟩ := ih hb fun x hx => hcommands x (List.mem_cons_of_mem _ hx)
    rw [Archive.answers, answersOnShelf, hrun]
    refine ⟨?_, hlast⟩
    simp only [hanswers, List.map_cons]

/-! ## Nothing is done by halves -/

/-- **A change that does not show**: the same workflows are loaded and found, and the file is as it
was. -/
structure Unseen (a b : Archive) : Prop where
  /-- the same workflows are loaded -/
  load : (Archive.load b).1 = (Archive.load a).1
  /-- the same workflow is found by each id -/
  get (id : String) : (Archive.get id b).1 = (Archive.get id a).1
  /-- the file is as it was -/
  content : b.disk.read file = a.disk.read file

/-- The answer to a request whose write failed, and to one about an unknown id. -/
def Request.refusal : Request → Option Answer
  | .upsert _ => some (.saved false)
  | .delete _ => some (.saved false)
  | .toggle _ => some (.switch none)
  | _ => none

/-- The id that a request has to find. -/
def Request.target : Request → Option String
  | .delete id => some id
  | .toggle id => some id
  | _ => none

section

variable {a b : Archive} {shelf : List Workflow} (h : a.Holds shelf)

include h

theorem Holds.run_load : (Archive.load a).1 = .done shelf := by
  obtain ⟨notes, hread⟩ := h.read
  obtain ⟨b, hload, -⟩ := Archive.run_load h.coherent hread
  rw [hload]

theorem Holds.run_get (id : String) :
    (Archive.get id a).1 = .done (shelf.find? fun w => w.id = id) := by
  obtain ⟨notes, hread⟩ := h.read
  obtain ⟨b, hload, -⟩ := Archive.run_load h.coherent hread
  have hget : Archive.get id a = (.done (shelf.find? fun w => w.id = id), b) :=
    Act.run_bind_done hload
  rw [hget]

theorem Holds.unseen (hb : b.Holds shelf)
    (hsame : b.disk.entries.get? file = a.disk.entries.get? file) : Unseen a b where
  load := hb.run_load.trans h.run_load.symm
  get id := (hb.run_get id).trans (h.run_get id).symm
  content := by rw [Disk.read, Disk.read, hsame]

/-- **A request whose write fails** says so, and does not show. -/
theorem Holds.failed {r : Request} (hr : r.Authored) {t : Trouble} (ht : t ≠ .nothing)
    {answer : Answer} (hanswer : r.refusal = some answer) :
    ((Command.request r t).act a).1 = .done answer ∧ Unseen a ((Command.request r t).act a).2 := by
  have hrefused : r.answer shelf false = answer := by
    cases r <;> first | exact Option.some.inj hanswer | cases hanswer
  rcases hwritten : r.written shelf with _ | after
  · obtain ⟨b, hrun, hdisk, hb⟩ := h.act_none t hwritten
    rw [hrun, hrefused]
    exact ⟨rfl, h.unseen hb (by rw [hdisk])⟩
  · obtain ⟨b, hrun, hb, hsame⟩ := h.act_some t hr hwritten
    rw [if_neg ht] at hb
    rw [hrun, decide_eq_false ht, hrefused]
    exact ⟨rfl, h.unseen hb (hsame ht)⟩

/-- **A request about an unknown id** says so, and touches nothing. -/
theorem Holds.unknown {r : Request} {id : String} (hid : r.target = some id)
    (hunknown : Shelf.knows id shelf = false) (t : Trouble) {answer : Answer}
    (hanswer : r.refusal = some answer) :
    ((Command.request r t).act a).1 = .done answer ∧
      ((Command.request r t).act a).2.disk = a.disk ∧
      Unseen a ((Command.request r t).act a).2 := by
  have hrefused : r.answer shelf false = answer := by
    cases r <;> first | exact Option.some.inj hanswer | cases hanswer
  have hwritten : r.written shelf = none := by
    cases r with
    | delete other =>
      obtain rfl := Option.some.inj hid
      rw [Request.written, Shelf.filter_eq_iff.mpr hunknown]
      exact if_pos rfl
    | toggle other =>
      obtain rfl := Option.some.inj hid
      have hnone : (shelf.find? fun w => w.id = other) = none := by
        simpa [Shelf.knows] using hunknown
      rw [Request.written, hnone]
      rfl
    | load => cases hid
    | get other => cases hid
    | upsert w => cases hid
  obtain ⟨b, hrun, hdisk, hb⟩ := h.act_none t hwritten
  rw [hrun, hrefused]
  exact ⟨rfl, hdisk, h.unseen hb (by rw [hdisk])⟩

end

/-- **A series of commands that goes as on the shelf**, from an empty directory. -/
structure AsOnShelf (commands : List Command) : Prop where
  /-- the answers are those of the shelf -/
  answered : (answers commands (opened Disk.empty)).1 =
    (answersOnShelf commands []).1.map Outcome.done
  /-- what is loaded at the end is the shelf -/
  loaded : (load (answers commands (opened Disk.empty)).2).1 =
    .done (answersOnShelf commands []).2
  /-- ids are distinct -/
  distinct : (Shelf.ids (answersOnShelf commands []).2).Nodup
  /-- a request whose write fails says so, and does not show -/
  failed {r : Request} (hr : r.Authored) {t : Trouble} (ht : t ≠ .nothing) {answer : Answer}
    (hanswer : r.refusal = some answer) :
    let a := (answers commands (opened Disk.empty)).2
    ((Command.request r t).act a).1 = .done answer ∧ Unseen a ((Command.request r t).act a).2
  /-- a request about an unknown id says so, and touches nothing -/
  unknown {r : Request} {id : String} (hid : r.target = some id)
    (hunknown : Shelf.knows id (answersOnShelf commands []).2 = false) (t : Trouble)
    {answer : Answer} (hanswer : r.refusal = some answer) :
    let a := (answers commands (opened Disk.empty)).2
    ((Command.request r t).act a).1 = .done answer ∧
      ((Command.request r t).act a).2.disk = a.disk ∧ Unseen a ((Command.request r t).act a).2

/-- **The archive is an ordered map whose writes are done as a whole or not at all.** -/
theorem commands_as_on_shelf {commands : List Command} (h : ∀ c ∈ commands, c.Authored) :
    AsOnShelf commands := by
  obtain ⟨hanswers, hholds⟩ := holds_opened.answers h
  exact ⟨hanswers, hholds.run_load, hholds.distinct, hholds.failed, hholds.unknown⟩

end Archive

namespace Gauge

open Archive

/-- A gauge that is saved, saved again where that is refused, and switched off. -/
def commands : List Command :=
  [.request (.upsert (workflow (.double (Double.ofInt 7)))) .nothing,
    .request (.upsert (workflow (.double (Double.ofInt 8)))) .placing,
    .request (.toggle "gauge") .opening, .request (.toggle "gauge") .nothing, .reopening,
    .request (.delete "dial") .nothing, .request .load .nothing]

/-- A gauge that is saved with a number that is not finite, before the archive is opened again. -/
def brokenCommands : List Command :=
  [.request (.upsert (workflow (.double .nan))) .nothing, .reopening]

end Gauge

namespace Archive

theorem commands_as_on_shelf_gauge : AsOnShelf Gauge.commands := by
  have hseven :=
    Gauge.authored_workflow (n := .double (Double.ofInt 7)) (Double.canonical_ofInt 7) rfl
  have height :=
    Gauge.authored_workflow (n := .double (Double.ofInt 8)) (Double.canonical_ofInt 8) rfl
  refine commands_as_on_shelf ?_
  simp only [Gauge.commands, List.forall_mem_cons]
  exact ⟨hseven, height, trivial, trivial, trivial, trivial, trivial, List.forall_mem_nil _⟩

/-- A number among the parameters of a node that is not finite stays on the shelf, but an archive
that is opened again does not know it. -/
theorem loaded_number_differs :
    Workflow.load (Gauge.document (.double .nan)) = .ok (Gauge.workflow (.double .nan)) ∧
      ¬ AsOnShelf Gauge.brokenCommands := by
  refine ⟨rfl, fun h => ?_⟩
  obtain ⟨b, hrun, -, hread⟩ := upsert_broken
  have hend : (answers Gauge.brokenCommands (opened Disk.empty)).2 =
      opened (troubled .nothing b.disk) :=
    congrArg (fun r : Outcome Answer × Archive => opened (troubled .nothing r.2.disk)) hrun
  have hload : load (opened (troubled .nothing b.disk)) = (.done [Gauge.blank], _) :=
    load_of_stale (fresh?_opened _) hread
  have hloaded := h.loaded
  rw [hend, hload] at hloaded
  exact Gauge.workflow_ne_blank _ (List.head_eq_of_cons_eq (Outcome.done.inj hloaded)).symm

end Archive

end ChatFlow
