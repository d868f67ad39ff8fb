import ChatFlow.Proofs.Workflow.Fields
import ChatFlow.Proofs.Workflow.Shelf
import ChatFlow.Proofs.Workflow.Stock
import Mathlib.Data.List.Duplicate

/-!
# The graph answers as a scan would

A workflow is walked along an index: its nodes by id, its connections by the node and port they leave.
The index is built once, while the workflow is loaded, and goes along when the workflow is switched.

* `GraphIndex.get?_nodesFrom`, `GraphIndex.outgoing_leavingOf` — **the index is asked, and a scan of the
  lists would say the same**;
* `GraphIndex.nodesFrom_cases` — it is refused for the first id that is met again, and for nothing else;
* `Workflow.Scanned` — a workflow whose graph answers as a scan of its lists;
* `Workflow.Fits` — a document whose fields, nodes and connections can be read, each by itself;
* `Workflow.index_eq_scan` — **every workflow that is loaded is scanned**, however often it is
  switched and loaded again, and so is all that an archive holds; **a document that fits is refused
  exactly for an id that two of its nodes share**.
-/

namespace ChatFlow

open Schema

namespace GraphIndex

/-! ## Connections -/

theorem outgoing_join (index : Table (Table (List Connection))) (c : Connection) (id port : String) :
    outgoing (join index c) id port =
      outgoing index id port ++ if c.source = id ∧ c.port = port then [c] else [] := by
  simp only [outgoing, join]
  rw [Table.get?_insert]
  by_cases hsource : c.source = id
  · subst hsource
    rw [if_pos rfl, Option.bind_some, Table.get?_insert]
    by_cases hport : c.port = port
    · subst hport
      simp
    · rw [if_neg hport, if_neg fun h => hport h.2, List.append_nil]
      cases index.get? c.source <;> rfl
  · rw [if_neg hsource, if_neg fun h => hsource h.1, List.append_nil]

/-- **What leaves a node on a port** is what a scan of the connections finds, in declared order. -/
theorem outgoing_leavingOf (connections : List Connection) (id port : String) :
    outgoing (leavingOf connections) id port =
      connections.filter fun c => c.source = id ∧ c.port = port := by
  have hfold (index : Table (Table (List Connection))) :
      outgoing (connections.foldl join index) id port =
        outgoing index id port ++ connections.filter fun c => c.source = id ∧ c.port = port := by
    induction connections generalizing index with
    | nil => exact (List.append_nil _).symm
    | cons c rest ih =>
      rw [List.foldl_cons, ih, outgoing_join, List.append_assoc, List.filter_cons]
      simp only [decide_eq_true_eq]
      split <;> simp
  exact hfold []

/-! ## Nodes -/

variable {seen table : Table Node} {nodes : List Node}

/-- **The node of an id** is the one that a scan of the nodes finds. -/
theorem get?_nodesFrom (h : nodesFrom seen nodes = .ok table) (id : String) :
    table.get? id = (seen.get? id).or (nodes.find? fun n => n.id = id) := by
  induction nodes generalizing seen with
  | nil =>
    obtain rfl := Except.ok.inj h
    exact Option.or_none.symm
  | cons n rest ih =>
    rw [nodesFrom] at h
    split at h
    · cases h
    · next hseen =>
      rw [ih h, Table.get?_insert]
      by_cases hid : n.id = id
      · subst hid
        have hnone : seen.get? n.id = none := by simpa [Table.contains] using hseen
        rw [if_pos rfl, hnone]
        simp
      · simp [hid]

/-- **Nodes are indexed, or refused for the first id that was met before.** -/
theorem nodesFrom_cases (seen : Table Node) (nodes : List Node) :
    (∃ table, nodesFrom seen nodes = .ok table) ∨
      ∃ before n after, nodes = before ++ n :: after ∧ nodesFrom seen nodes = .error n.id ∧
        (seen.contains n.id = true ∨ n.id ∈ before.map Node.id) := by
  induction nodes generalizing seen with
  | nil => exact .inl ⟨seen, rfl⟩
  | cons n rest ih =>
    rw [nodesFrom]
    split
    · next hseen => exact .inr ⟨[], n, rest, rfl, rfl, .inl hseen⟩
    · rcases ih (seen.insert n.id n) with hok | ⟨before, m, after, rfl, herror, hmet⟩
      · exact .inl hok
      · refine .inr ⟨n :: before, m, after, rfl, herror, ?_⟩
        rw [List.map_cons, List.mem_cons]
        rcases hmet with hseen | hbefore
        · rw [Table.contains, Table.get?_insert] at hseen
          split at hseen
          · next heq => exact .inr (.inl heq.symm)
          · exact .inl hseen
        · exact .inr (.inr hbefore)

end GraphIndex

namespace Workflow

/-! ## Scanned workflows -/

/-- **A workflow whose graph answers as a scan of its lists would.** -/
structure Scanned (w : Workflow) : Prop where
  /-- no two nodes share an id -/
  distinct : (w.nodes.map Node.id).Nodup
  /-- the node of an id is the one of the list that has it -/
  node? (id : String) : w.node? id = w.nodes.find? fun n => n.id = id
  /-- what leaves a node on a port are the connections of the list that do, in declared order -/
  outgoing (id port : String) :
    w.outgoing id port = w.connections.filter fun c => c.source = id ∧ c.port = port

theorem scanned_of_indexed {w : Workflow} (h : w.indexed = .ok w) : w.Scanned := by
  unfold indexed at h
  split at h
  · next nodes hnodes =>
    have hindex : w.index = ⟨nodes, GraphIndex.leavingOf w.connections⟩ :=
      (congrArg Workflow.index (Except.ok.inj h)).symm
    refine ⟨(GraphIndex.nodup_of_nodesFrom hnodes).1, fun id => ?_, fun id port => ?_⟩
    · rw [Workflow.node?, hindex, GraphIndex.get?_nodesFrom hnodes]
      rfl
    · rw [Workflow.outgoing, hindex]
      exact GraphIndex.outgoing_leavingOf w.connections id port
  · cases h

theorem scanned_of_load {v : Value} {w : Workflow} (h : load v = .ok w) : w.Scanned :=
  scanned_of_indexed (indexed_of_load h)

/-- The switch is no part of the graph. -/
theorem Scanned.turned {w : Workflow} (h : w.Scanned) : (Archive.turned w).Scanned :=
  ⟨h.distinct, h.node?, h.outgoing⟩

/-- **What becomes of a workflow** that is switched, and written and loaded again, any number of
times. -/
inductive Becomes (w : Workflow) : Workflow → Prop where
  /-- as it was -/
  | same : Becomes w w
  /-- switched -/
  | turned {x : Workflow} (h : Becomes w x) : Becomes w (Archive.turned x)
  /-- loaded from the document that it is written as -/
  | reloaded {x y : Workflow} (h : Becomes w x) (hload : load x.document = .ok y) : Becomes w y

theorem Scanned.becomes {w x : Workflow} (hw : w.Scanned) (h : w.Becomes x) : x.Scanned := by
  induction h with
  | same => exact hw
  | turned _ ih => exact ih.turned
  | reloaded _ hload _ => exact scanned_of_load hload

/-! ## Documents that fit -/

/-- The documents of a list, or of a map that names them. -/
def documents? : Value → Option (List Value)
  | .list l => some l
  | .tuple l => some l
  | .object entries => some (entries.map Prod.snd)
  | _ => none

/-- The documents of the nodes. -/
def nodeDocuments (data : Table Value) : List Value :=
  ((data.get? "nodes").bind documents?).getD []

/-- The ids of the nodes, each read as text. -/
def nodeIds (data : Table Value) : List (Checked String) :=
  (nodeDocuments data).map fun u => text (u.get "id")

/-- **A document whose parts can be read, each by itself.** -/
structure Fits (data : Table Value) : Prop where
  /-- the id -/
  id : ∃ s, Given data "id" text s
  /-- the name -/
  name : ∃ s, Taken data "name" text "untitled" s
  /-- when it fires -/
  triggerType : ∃ s, Taken data "trigger_type" text "exact" s
  /-- on what it fires -/
  triggerContent : ∃ s, Taken data "trigger_content" text "" s
  /-- the switch -/
  enabled : ∃ b, Taken data "enabled" flag true b
  /-- whether later workflows do not see its messages -/
  stopPropagation : ∃ b, Taken data "stop_propagation" flag false b
  /-- the nodes -/
  nodes (v : Value) (hv : data.get? "nodes" = some v) :
    ∃ l, documents? v = some l ∧ ∀ u ∈ l, ∃ n, Node.read u = .ok n
  /-- the connections -/
  connections (v : Value) (hv : data.get? "connections" = some v) :
    v = .null ∨ ∃ l, (v = .list l ∨ v = .tuple l) ∧ ∀ u ∈ l, ∃ c, Connection.read u = .ok c

theorem Fits.exists_nodes {data : Table Value} (h : Fits data) : ∃ nodes,
    Taken (arranged data) "nodes" (items Node.read) [] nodes ∧
      nodeIds data = nodes.map fun n => .ok n.id := by
  have hget : (arranged data).get? "nodes" = (data.get? "nodes").map listed := by
    rw [get?_arranged, if_neg (by decide), if_pos rfl]
  rw [nodeIds, nodeDocuments]
  rcases hv : data.get? "nodes" with _ | v <;> rw [hv] at hget
  · exact ⟨[], .inr ⟨hget, rfl⟩, rfl⟩
  · obtain ⟨l, hl, hread⟩ := h.nodes v hv
    obtain ⟨nodes, hnodes, hmap⟩ := exists_items hread
    have hlisted : items Node.read (listed v) = .ok nodes := by
      cases v with
      | list items =>
        obtain rfl := Option.some.inj hl
        exact hnodes
      | tuple items =>
        obtain rfl := Option.some.inj hl
        exact hnodes
      | object entries =>
        obtain rfl := Option.some.inj hl
        exact hnodes
      | _ => cases hl
    refine ⟨nodes, .inl ⟨_, hget, hlisted⟩, ?_⟩
    rw [← List.forall₂_eq_eq_eq, List.forall₂_map_left_iff, List.forall₂_map_right_iff] at hmap ⊢
    rw [Option.bind_some, hl]
    exact hmap.imp fun _ _ => Node.id_of_read

theorem Fits.exists_connections {data : Table Value} (h : Fits data) : ∃ connections,
    Taken (arranged data) "connections" (items Connection.read) [] connections := by
  have hget : (arranged data).get? "connections" = some (orNoItems (data.get? "connections")) := by
    rw [get?_arranged, if_pos rfl]
  rcases hv : data.get? "connections" with _ | v <;> rw [hv] at hget
  · exact ⟨[], .inl ⟨_, hget, rfl⟩⟩
  · rcases h.connections v hv with rfl | ⟨l, hl, hread⟩
    · exact ⟨[], .inl ⟨_, hget, rfl⟩⟩
    · obtain ⟨connections, hconnections, -⟩ := exists_items hread
      rcases hl with rfl | rfl
      · exact ⟨connections, .inl ⟨_, hget, hconnections⟩⟩
      · exact ⟨connections, .inl ⟨_, hget, hconnections⟩⟩

/-- **The fields of a document that fits are read**, and its nodes have the ids that their documents
name. -/
theorem Fits.exists_fields {data : Table Value} (h : Fits data) : ∃ w,
    readFields (arranged data) = .ok w ∧ nodeIds data = w.nodes.map fun n => .ok n.id := by
  have htaken {α : Type} {key : String} {read : Value → Checked α} {default a : α}
      (hnodes : key ≠ "nodes") (hconnections : key ≠ "connections")
      (hfield : Taken data key read default a) : Taken (arranged data) key read default a := by
    rwa [Taken, Given, get?_arranged_of_ne data hnodes hconnections]
  obtain ⟨id, v, hv, hid⟩ := h.id
  obtain ⟨name, hname⟩ := h.name
  obtain ⟨triggerType, htype⟩ := h.triggerType
  obtain ⟨triggerContent, hcontent⟩ := h.triggerContent
  obtain ⟨enabled, henabled⟩ := h.enabled
  obtain ⟨stop, hstop⟩ := h.stopPropagation
  obtain ⟨nodes, hnodes, hids⟩ := h.exists_nodes
  obtain ⟨connections, hconnections⟩ := h.exists_connections
  refine ⟨⟨id, name, triggerType, triggerContent, enabled, stop, nodes, connections, ⟨[], []⟩⟩,
    readFields_iff.mpr ⟨⟨⟨v, ?_, hid⟩, htaken (by decide) (by decide) hname,
      htaken (by decide) (by decide) htype, htaken (by decide) (by decide) hcontent,
      htaken (by decide) (by decide) henabled, htaken (by decide) (by decide) hstop, hnodes,
      hconnections⟩, rfl⟩, hids⟩
  exact (get?_arranged_of_ne data (by decide) (by decide)).trans hv

/-- **A document that fits is loaded, unless two of its nodes share an id.** It is refused for such an
id then. -/
theorem Fits.load_cases {data : Table Value} (h : Fits data) :
    (nodeIds data).Nodup ∧ (∃ w, load (.object data) = .ok w) ∨
      ∃ s, List.Duplicate (.ok s) (nodeIds data) ∧
        load (.object data) = .error (.invalidDocument .workflow (duplicate s)) := by
  obtain ⟨w, hw, hids⟩ := h.exists_fields
  have hload : load (.object data) = (indexed w).mapError (.invalidDocument .workflow) := by
    change (readFields (arranged data) >>= indexed).mapError _ = _
    rw [hw]
    rfl
  have hmap : nodeIds data = (w.nodes.map Node.id).map .ok := by rw [hids, List.map_map]; rfl
  rw [hload, hmap, indexed]
  rcases GraphIndex.nodesFrom_cases [] w.nodes with ⟨table, htable⟩ |
    ⟨before, n, after, hnodes, herror, hmet⟩
  · left
    rw [htable]
    exact ⟨(GraphIndex.nodup_of_nodesFrom htable).1.map fun _ _ => Except.ok.inj, _, rfl⟩
  · right
    rw [herror]
    refine ⟨n.id, ?_, rfl⟩
    rcases hmet with hseen | hbefore
    · cases hseen
    · rw [hnodes, List.map_append, List.map_append, List.map_cons, List.map_cons,
        List.duplicate_iff_sublist]
      exact (List.singleton_sublist.mpr (List.mem_map_of_mem hbefore)).append
        ((List.nil_sublist _).cons_cons _)

end Workflow

/-! ## Archives -/

namespace Archive

/-- Whether what a command saves was loaded, or became of what was loaded. -/
def Command.Loaded : Command → Prop
  | .request (.upsert w) _ => ∃ v x, Workflow.load v = .ok x ∧ x.Becomes w
  | _ => True

/-- **Whether what an archive remembers is scanned.** What its file holds is loaded anyway. -/
def Scanned (a : Archive) : Prop :=
  ∀ workflows, a.remembered = some workflows → ∀ w ∈ workflows, w.Scanned

namespace Scanned

theorem of_readFile {d : Disk} {workflows : List Workflow} {notes : List Note}
    (h : readFile d = .ok (workflows, notes)) : ∀ w ∈ workflows, w.Scanned := by
  intro w hw
  obtain ⟨v, -, hload⟩ := exists_of_readFile h w hw
  exact Workflow.scanned_of_load hload

variable {a : Archive} (h : a.Scanned)

include h

theorem forall_load {b : Archive} {workflows : List Workflow}
    (hload : Archive.load a = (.done workflows, b)) : ∀ w ∈ workflows, w.Scanned :=
  Archive.forall_load h (fun _ _ => of_readFile) hload

theorem load : (Archive.load a).2.Scanned := by
  rcases load_cases a with hsame | ⟨workflows, notes, hread, hrun⟩
  · rwa [hsame]
  · rw [hrun]
    rintro others hothers
    obtain rfl := Option.some.inj hothers
    exact of_readFile hread

theorem saveAll {workflows : List Workflow} (hworkflows : ∀ w ∈ workflows, w.Scanned) :
    (Archive.saveAll workflows a).2.Scanned := by
  intro others hothers
  rcases remembered_saveAll workflows a with hnew | hold
  · obtain rfl := Option.some.inj (hnew.symm.trans hothers)
    exact hworkflows
  · exact h others (hold.symm.trans hothers)

/-- **A request leaves scanned workflows**, if the one that it saves is scanned. -/
theorem act {r : Request} (hsaved : ∀ w, r = .upsert w → w.Scanned) : (r.act a).2.Scanned := by
  have hloaded := h.load
  rcases hload : Archive.load a with ⟨workflows | f | _, b⟩ <;> rw [hload] at hloaded
  · rw [Request.run_loaded hload]
    rcases hwritten : r.written workflows with _ | after
    · exact hloaded
    · exact hloaded.saveAll (Request.forall_written hsaved (fun _ hw => hw.turned)
        (h.forall_load hload) hwritten)
  · rwa [r.run_failed hload]
  · exact absurd hload (load_ne_hung a b)

theorem command {c : Command} (hc : c.Loaded) : (c.act a).2.Scanned := by
  cases c with
  | reopening => nofun
  | request r t =>
    -- trouble with writing is no matter of what is remembered
    have htroubled : ({ a with disk := troubled t a.disk } : Archive).Scanned := h
    refine fun workflows hworkflows => htroubled.act ?_ workflows hworkflows
    rintro w rfl
    obtain ⟨v, x, hload, hx⟩ := hc
    exact (Workflow.scanned_of_load hload).becomes hx

theorem answers {commands : List Command} (hcommands : ∀ c ∈ commands, c.Loaded) :
    (Archive.answers commands a).2.Scanned := by
  induction commands generalizing a with
  | nil => exact h
  | cons c rest ih =>
    rw [List.forall_mem_cons] at hcommands
    exact ih (h.command hcommands.1) hcommands.2

end Scanned

end Archive

namespace Workflow

/-- **The index is a scan**: the graph of every workflow that is loaded answers as a scan of its lists
would, however often it is switched, and written and loaded again; so do the graphs of all workflows of
an archive, whatever it is asked and whatever goes wrong with it. **A document that fits is refused
exactly if two of its nodes share an id**, when each id is read as text. -/
theorem index_eq_scan :
    (∀ {v : Value} {w x : Workflow}, load v = .ok w → w.Becomes x → x.Scanned) ∧
    (∀ {d : Disk} {commands : List Archive.Command}, (∀ c ∈ commands, c.Loaded) →
      ∀ workflows a, Archive.load (Archive.answers commands (Archive.opened d)).2 =
        (.done workflows, a) → ∀ w ∈ workflows, w.Scanned) ∧
    (∀ {data : Table Value}, Fits data →
      ((∃ f, load (.object data) = .error f) ↔ ∃ s, List.Duplicate (.ok s) (nodeIds data))) := by
  refine ⟨fun hload hx => (scanned_of_load hload).becomes hx, ?_, ?_⟩
  · intro d commands hcommands workflows a hload
    have hopened : (Archive.opened d).Scanned := nofun
    exact (hopened.answers hcommands).forall_load hload
  · intro data hdata
    rcases hdata.load_cases with ⟨hnodup, w, hw⟩ | ⟨s, hs, herror⟩
    · refine iff_of_false (fun ⟨f, hf⟩ => ?_) fun ⟨s, hs⟩ => hs.not_nodup hnodup
      rw [hw] at hf
      cases hf
    · exact iff_of_true ⟨_, herror⟩ ⟨s, hs⟩

/-! ## Twins -/

namespace Twins

/-- A document with two nodes of one id: the number one, and its text. -/
def data : Table Value :=
  [("id", .text "twins"),
    ("nodes", .list [.object [("id", .int 1), ("type", .text "trigger")],
      .object [("id", .text "1"), ("type", .text "delay")]])]

theorem fits_data : Fits data := by
  refine ⟨⟨"twins", _, rfl, rfl⟩, ⟨_, .inr ⟨rfl, rfl⟩⟩, ⟨_, .inr ⟨rfl, rfl⟩⟩, ⟨_, .inr ⟨rfl, rfl⟩⟩,
    ⟨_, .inr ⟨rfl, rfl⟩⟩, ⟨_, .inr ⟨rfl, rfl⟩⟩, fun v hv => ?_, nofun⟩
  obtain rfl := Option.some.inj hv
  refine ⟨_, rfl, ?_⟩
  simp only [List.forall_mem_cons]
  exact ⟨⟨_, rfl⟩, ⟨_, rfl⟩, List.forall_mem_nil _⟩

end Twins

/-- What the archive of the gauge is asked: to save it, to switch it, and to be opened again. -/
def commands : List Archive.Command :=
  [.request (.upsert Gauge.blank) .nothing, .request (.toggle "gauge") .nothing, .reopening]

/-- The graph of the drawing answers as a scan would, also when it is switched; the gauge is scanned
in an archive where it was saved and switched, and that was opened again; and the twins are refused. -/
theorem index_eq_scan_drawing :
    (load Drawing.document = .ok Drawing.workflow ∧ (Archive.turned Drawing.workflow).Scanned) ∧
    (∃ w a, Archive.load (Archive.answers commands (Archive.opened Disk.empty)).2 = (.done [w], a) ∧
      w.Scanned) ∧
    (Fits Twins.data ∧ ∃ f, load (.object Twins.data) = .error f) := by
  obtain ⟨hloaded, harchive, hrefused⟩ := index_eq_scan
  refine ⟨⟨Drawing.load_document, hloaded Drawing.load_document (.turned .same)⟩, ?_,
    Twins.fits_data, (hrefused Twins.fits_data).mpr ⟨"1", .cons_mem (List.mem_singleton.mpr rfl)⟩⟩
  have hauthored : ∀ c ∈ commands, c.Authored := by
    simp only [commands, List.forall_mem_cons]
    exact ⟨Gauge.authored_blank, trivial, trivial, List.forall_mem_nil _⟩
  have hcommands : ∀ c ∈ commands, c.Loaded := by
    obtain ⟨v, -, hload, -⟩ := Gauge.authored_blank
    simp only [commands, List.forall_mem_cons]
    exact ⟨⟨v, _, hload, .same⟩, trivial, trivial, List.forall_mem_nil _⟩
  have hshelf : (Archive.answersOnShelf commands []).2 = [Archive.turned Gauge.blank] := rfl
  have hload := (Archive.holds_opened.answers hauthored).2.run_load
  rw [hshelf] at hload
  have hpair := Prod.eta (Archive.load (Archive.answers commands (Archive.opened Disk.empty)).2)
  rw [hload] at hpair
  exact ⟨_, _, hpair.symm, harchive hcommands _ _ hpair.symm _ List.mem_cons_self⟩

end Workflow

end ChatFlow
