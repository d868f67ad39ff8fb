import ChatFlow.Proofs.Workflow.Connections
import ChatFlow.Proofs.Workflow.Loading

/-!
# Workflows loaded again

A workflow that was loaded from a document of finite numbers is written as a document that is
loaded as the same workflow.

* `Workflow.Sound` — what a workflow loaded from a document is known to be: its parameters are those
  of its data, its ports are in their own spelling, its index is that of its graph
  (`Workflow.sound_of_load`);
* `Workflow.Settled` — a sound workflow whose node data are of finite numbers
  (`Workflow.Authored.settled`, `Workflow.settled_of_load`);
* `Workflow.load_toValue` — **a sound workflow is loaded from its own document as it was**, and so is
  a settled one from the document for others (`Workflow.Settled.load_document`).
-/

namespace ChatFlow

open Schema

/-! ## Nodes -/

/-- **A node whose parameters are those of its data**, and all of whose numbers can be written. -/
structure Node.Sound (n : Node) : Prop where
  /-- the data can be held by a document -/
  data : Json.Storable Number.Writable (.object n.data)
  /-- the parameters are read from the data -/
  params : Params.read n.kind n.data = .ok n.params
  /-- the place across can be written -/
  across : n.x.Canonical
  /-- the place down can be written -/
  down : n.y.Canonical

/-- **A node whose data are of finite numbers**, and whose parameters are those of its data. -/
structure Node.Settled (n : Node) : Prop where
  /-- the data can be held by a document -/
  data : Json.Storable Number.Usual (.object n.data)
  /-- the parameters are read from the data -/
  params : Params.read n.kind n.data = .ok n.params
  /-- the place across can be written -/
  across : n.x.Canonical
  /-- the place down can be written -/
  down : n.y.Canonical

theorem canonical_realDigits {s : List Char} {x : Double} (h : realDigits? s = some x) :
    x.Canonical := by
  simp only [realDigits?] at h
  split_ifs at h <;> cases h
  · trivial
  · trivial
  · exact Double.canonical_ofDecimal _ _ _

theorem canonical_realText {s : List Char} {x : Double} (h : realText? s = some x) :
    x.Canonical := by
  unfold realText? at h
  split at h
  · next y hy =>
    obtain rfl := Option.some.inj h
    exact canonical_realDigits hy
  · split at h
    · obtain ⟨digits, -, hx⟩ := Option.bind_eq_some_iff.mp h
      exact canonical_realDigits hx
    · cases h

theorem canonical_doubleOfInt {n : Int} {x : Double} (h : Number.doubleOfInt n = .ok x) :
    x.Canonical := by
  have hcanonical := Double.canonical_ofInt n
  unfold Number.doubleOfInt at h
  split at h
  · next hn =>
    obtain rfl := Except.ok.inj h
    rwa [hn] at hcanonical
  · cases h

/-- **A double that is read can be written.** -/
theorem canonical_real {v : Value} {x : Double} (hv : Json.Storable Number.Writable v)
    (h : real v = .ok x) : x.Canonical := by
  cases hv with
  | bool b =>
    obtain rfl := Except.ok.inj h
    exact Double.canonical_ofInt _
  | @number n hn =>
    cases n with
    | int n =>
      have hx : Number.doubleOfInt n = .ok x := by
        rw [real, Number.toDouble] at h
        split at h
        · next y hy =>
          obtain rfl := Except.ok.inj h
          exact hy
        · cases h
      exact canonical_doubleOfInt hx
    | double y =>
      obtain rfl := Except.ok.inj h
      exact hn
  | text s =>
    simp only [real] at h
    split at h
    · next y hy =>
      obtain rfl := Except.ok.inj h
      exact canonical_realText hy
    · cases h
  | null => cases h
  | list _ => cases h
  | object _ _ => cases h

namespace Node

/-- Where the fields of a node come from. -/
theorem sources_of_read {v : Value} {n : Node} (h : read v = .ok n) :
    ∃ data : Table Value, v = .object data ∧
      (n.kind = "" ∨ ∃ u, data.get? "type" = some u ∧ text u = .ok n.kind) ∧
      (n.x = origin ∨ ∃ u, data.get? "x" = some u ∧ real u = .ok n.x) ∧
      (n.y = origin ∨ ∃ u, data.get? "y" = some u ∧ real u = .ok n.y) ∧
      (n.data = [] ∨ data.get? "data" = some (.object n.data)) ∧
      Params.read n.kind n.data = .ok n.params := by
  obtain ⟨data, hdata, h⟩ := exists_of_bind_ok h
  obtain ⟨fields, hfields, h⟩ := exists_of_bind_ok h
  obtain ⟨params, hparams, h⟩ := exists_of_bind_ok h
  obtain rfl := Except.ok.inj h
  have hmap (found : List Defect) : (optional data "data" map [] found).1 = [] ∨
      data.get? "data" = some (.object (optional data "data" map [] found).1) := by
    rcases optional_cases data "data" map [] found with hd | ⟨u, hu, hx⟩
    · exact .inl hd
    · exact .inr (by rw [hu, eq_of_map hx])
  obtain rfl := eq_of_finish hfields
  exact ⟨data, eq_of_record hdata, required_cases .., optional_cases .., optional_cases .., hmap _,
    hparams⟩

/-- The data of a node are a part of its document. -/
theorem storable_data {kind : Number → Prop} {v : Value} {n : Node} (hv : Json.Storable kind v)
    (h : read v = .ok n) : Json.Storable kind (.object n.data) := by
  obtain ⟨data, rfl, -, -, -, hdata | hdata, -⟩ := sources_of_read h
  · rw [hdata]
    exact .object List.nodup_nil (List.forall_mem_nil _)
  · exact hv.get? hdata

theorem sound_of_read {v : Value} {n : Node} (hv : Json.Storable Number.Writable v)
    (h : read v = .ok n) : n.Sound := by
  have hdata := storable_data hv h
  obtain ⟨data, rfl, -, hx, hy, -, hparams⟩ := sources_of_read h
  have hplace {key : String} {x : Double}
      (h : x = origin ∨ ∃ u, data.get? key = some u ∧ real u = .ok x) : x.Canonical := by
    rcases h with rfl | ⟨u, hu, hreal⟩
    · exact Double.canonical_ofInt 0
    · exact canonical_real (hv.get? hu) hreal
  exact ⟨hdata, hparams, hplace hx, hplace hy⟩

/-- What is read from the document of a node, up to its parameters. -/
theorem read_toValue_eq (n : Node) :
    read n.toValue = (Params.read n.kind n.data).map fun params => { n with params } := by
  have hfields : readFields n.toValue.entries = .ok { n with params := .inert [] } := by
    unfold readFields toValue Value.entries
    rw [required_eq (v := .text n.id) (a := n.id) rfl rfl,
      required_eq (v := .text n.kind) (a := n.kind) rfl rfl,
      optional_eq (v := .double n.x) (a := n.x) rfl rfl,
      optional_eq (v := .double n.y) (a := n.y) rfl rfl,
      optional_eq (v := .object n.data) (a := n.data) rfl rfl, optional_none rfl]
    rfl
  have hread : read n.toValue = readFields n.toValue.entries >>= fun node =>
      Params.read node.kind node.data >>= fun params => pure { node with params } := rfl
  rw [hread, hfields]
  rfl

/-- **A node is read from its document as it was**, if its parameters are those of its data. -/
theorem read_toValue {n : Node} (h : Params.read n.kind n.data = .ok n.params) :
    read n.toValue = .ok n := by
  rw [read_toValue_eq, h]
  rfl

theorem storable_toValue {kind : Number → Prop} {n : Node}
    (hdata : Json.Storable kind (.object n.data)) (hx : kind (.double n.x))
    (hy : kind (.double n.y)) : Json.Storable kind n.toValue := by
  refine .object (by simp [Table.keys]) ?_
  simp only [List.forall_mem_cons]
  exact ⟨.text _, .text _, .number hx, .number hy, hdata, List.forall_mem_nil _⟩

/-- The document for others of a sound node can be written. -/
theorem Sound.storable_plain {n : Node} (h : n.Sound) :
    Json.Storable Number.Writable n.plain.toValue :=
  storable_toValue (n := n.plain) h.data.plain h.across h.down

/-- A node whose data are of finite numbers is plain already. -/
theorem plain_eq {n : Node} (h : Json.Storable Number.Finite (.object n.data)) : n.plain = n := by
  rw [plain, h.plainFields_eq]

theorem Settled.sound {n : Node} (h : n.Settled) : n.Sound :=
  ⟨h.data.writable, h.params, h.across, h.down⟩

theorem Sound.settled {n : Node} (h : n.Sound)
    (hfinite : Value.allFinite (.object n.data) = true) : n.Settled :=
  ⟨h.data.usual hfinite, h.params, h.across, h.down⟩

end Node

/-! ## Workflows -/

/-- **A workflow of sound nodes and settled connections**, indexed. -/
structure Workflow.Sound (w : Workflow) : Prop where
  /-- its nodes are sound -/
  nodes : ∀ n ∈ w.nodes, n.Sound
  /-- its connections are settled -/
  connections : ∀ c ∈ w.connections, c.Settled
  /-- its index is that of its graph -/
  index : w.indexed = .ok w

/-- **A workflow of settled nodes and connections**, indexed. -/
structure Workflow.Settled (w : Workflow) : Prop where
  /-- its nodes are settled -/
  nodes : ∀ n ∈ w.nodes, n.Settled
  /-- its connections are settled -/
  connections : ∀ c ∈ w.connections, c.Settled
  /-- its index is that of its graph -/
  index : w.indexed = .ok w

namespace Workflow

/-- Nodes by name made a list of nodes. -/
theorem storable_nodesListed {kind : Number → Prop} {data : Table Value}
    (h : Json.Storable kind (.object data)) :
    Json.Storable kind (.object (match data.get? "nodes" with
      | some (.object entries) => data.insert "nodes" (.list (entries.map Prod.snd))
      | _ => data)) := by
  split
  · next entries hentries =>
    refine h.insert "nodes" (.list fun v hv => ?_)
    obtain ⟨entry, hentry, rfl⟩ := List.mem_map.mp hv
    exact (Json.storable_object_iff.mp (h.get? hentries)).2 entry hentry
  · exact h

theorem storable_arranged {kind : Number → Prop} {data : Table Value}
    (h : Json.Storable kind (.object data)) : Json.Storable kind (.object (arranged data)) := by
  have hnodes := storable_nodesListed h
  unfold arranged
  dsimp only
  split
  · exact hnodes.insert "connections" (.list (List.forall_mem_nil _))
  · exact hnodes.insert "connections" (.list (List.forall_mem_nil _))
  · exact hnodes

/-- Where the graph of a loaded workflow comes from. -/
theorem sources_of_load {kind : Number → Prop} {v : Value} {w : Workflow}
    (hv : Json.Storable kind v) (h : load v = .ok w) :
    (∀ n ∈ w.nodes, ∃ u, Json.Storable kind u ∧ Node.read u = .ok n) ∧
      (∀ c ∈ w.connections, c.Settled) ∧ w.indexed = .ok w := by
  refine ⟨?_, ?_, indexed_of_load h⟩
  · obtain ⟨data, rfl, hnodes⟩ := exists_of_mem_nodes h
    intro n hn
    obtain ⟨l, item, hl, hitem, hread⟩ := hnodes n hn
    exact ⟨item, ((storable_arranged hv).get? hl).item hitem, hread⟩
  · obtain ⟨data, -, h⟩ := exists_of_bind_ok (ok_of_mapError_ok h)
    obtain ⟨fields, hfields, h⟩ := exists_of_bind_ok h
    obtain ⟨found, hconnections⟩ := connections_of_readFields hfields
    rw [(eq_of_indexed h).1]
    change ∀ c ∈ fields.connections, c.Settled
    rw [hconnections]
    exact optional_forall (P := fun l : List Connection => ∀ c ∈ l, c.Settled)
      (fun _ _ => forall_of_items fun _ _ => Connection.settled_of_read) (by simp) found

/-- **A workflow loaded from a document is sound.** -/
theorem sound_of_load {v : Value} {w : Workflow} (hv : Json.Storable Number.Writable v)
    (h : load v = .ok w) : w.Sound := by
  obtain ⟨hnodes, hconnections, hindex⟩ := sources_of_load hv h
  refine ⟨?_, hconnections, hindex⟩
  intro n hn
  obtain ⟨u, hu, hread⟩ := hnodes n hn
  exact Node.sound_of_read hu hread

/-- **Whether the node data hold finite numbers only.** -/
def finite (w : Workflow) : Bool := w.nodes.all fun n => Value.allFinite (.object n.data)

theorem Sound.settled {w : Workflow} (h : w.Sound)
    (hfinite : ∀ n ∈ w.nodes, Value.allFinite (.object n.data) = true) : w.Settled :=
  ⟨fun n hn => (h.nodes n hn).settled (hfinite n hn), h.connections, h.index⟩

theorem Settled.sound {w : Workflow} (h : w.Settled) : w.Sound :=
  ⟨fun n hn => (h.nodes n hn).sound, h.connections, h.index⟩

/-- **A workflow loaded from a document** whose node data hold finite numbers only. -/
def Authored (w : Workflow) : Prop :=
  ∃ v, Json.Storable Number.Writable v ∧ load v = .ok w ∧
    ∀ n ∈ w.nodes, Value.allFinite (.object n.data) = true

/-- **Authored workflows are settled.** -/
theorem Authored.settled {w : Workflow} (h : w.Authored) : w.Settled := by
  obtain ⟨v, hv, hload, hfinite⟩ := h
  exact (sound_of_load hv hload).settled hfinite

/-- A workflow loaded from a document of finite numbers is settled. -/
theorem settled_of_load {v : Value} {w : Workflow} (hv : Json.Storable Number.Usual v)
    (h : load v = .ok w) : w.Settled := by
  obtain ⟨hnodes, hconnections, hindex⟩ := sources_of_load hv h
  refine ⟨fun n hn => ?_, hconnections, hindex⟩
  obtain ⟨u, hu, hread⟩ := hnodes n hn
  have hsound := Node.sound_of_read hu.writable hread
  exact ⟨Node.storable_data hu hread, hsound.params, hsound.across, hsound.down⟩

/-! ## Its own document -/

/-- **A workflow is loaded from its own document as it was**, if its parameters are those of its
data, its connections are settled, and its index is that of its graph. -/
theorem load_toValue {w : Workflow}
    (hparams : ∀ n ∈ w.nodes, Params.read n.kind n.data = .ok n.params)
    (hsettled : ∀ c ∈ w.connections, c.Settled) (hindex : w.indexed = .ok w) :
    load w.toValue = .ok w := by
  have hnodes : items Node.read (.list (w.nodes.map Node.toValue)) = .ok w.nodes :=
    items_map fun n hn => Node.read_toValue (hparams n hn)
  have hconnections :
      items Connection.read (.list (w.connections.map Connection.toValue)) = .ok w.connections :=
    items_map fun c hc => (hsettled c hc).read_toValue
  have hfields : readFields (arranged w.toValue.entries) = .ok { w with index := ⟨[], []⟩ } := by
    have harranged : arranged w.toValue.entries = w.toValue.entries := rfl
    rw [harranged]
    unfold readFields toValue Value.entries
    rw [required_eq (v := .text w.id) (a := w.id) rfl rfl,
      optional_eq (v := .text w.name) (a := w.name) rfl rfl,
      optional_eq (v := .text w.triggerType) (a := w.triggerType) rfl rfl,
      optional_eq (v := .text w.triggerContent) (a := w.triggerContent) rfl rfl,
      optional_eq (v := .bool w.enabled) (a := w.enabled) rfl rfl,
      optional_eq (v := .bool w.stopPropagation) (a := w.stopPropagation) rfl rfl,
      optional_eq rfl hnodes, optional_eq rfl hconnections]
    rfl
  have hread : read w.toValue = readFields (arranged w.toValue.entries) >>= indexed := rfl
  -- a workflow is indexed without a look at the index it had
  have hagain : indexed { w with index := ⟨[], []⟩ } = .ok w := hindex
  rw [load, hread, hfields]
  change (indexed { w with index := ⟨[], []⟩ }).mapError _ = .ok w
  rw [hagain]
  rfl

theorem storable_toValue {kind : Number → Prop} {w : Workflow}
    (h : ∀ n ∈ w.nodes, Json.Storable kind n.toValue) : Json.Storable kind w.toValue := by
  have hconnections : ∀ v ∈ w.connections.map Connection.toValue, Json.Storable kind v :=
    List.forall_mem_map.mpr fun c _ => c.storable_toValue kind
  refine .object (by simp [Table.keys]) ?_
  simp only [List.forall_mem_cons]
  exact ⟨.text _, .text _, .text _, .text _, .bool _, .bool _, .list (List.forall_mem_map.mpr h),
    .list hconnections, List.forall_mem_nil _⟩

/-- A workflow of finite numbers is the same document for others. -/
theorem document_eq {w : Workflow}
    (h : ∀ n ∈ w.nodes, Json.Storable Number.Finite (.object n.data)) :
    w.document = w.toValue := by
  have hplain : w.nodes.map Node.plain = w.nodes := by
    rw [List.map_congr_left fun n hn => Node.plain_eq (h n hn), List.map_id']
  rw [document, hplain]

/-- The document for others of a sound workflow can be written. -/
theorem Sound.storable_document {w : Workflow} (h : w.Sound) :
    Json.Storable Number.Writable w.document :=
  storable_toValue (List.forall_mem_map.mpr fun n hn => (h.nodes n hn).storable_plain)

/-- **A settled workflow is loaded from its document as it was.** -/
theorem Settled.load_document {w : Workflow} (h : w.Settled) : load w.document = .ok w := by
  rw [document_eq fun n hn => (h.nodes n hn).data.finite]
  exact load_toValue (fun n hn => (h.nodes n hn).params) h.connections h.index

/-- The switch is no part of the graph. -/
theorem indexed_withEnabled {w : Workflow} (h : w.indexed = .ok w) (b : Bool) :
    indexed { w with enabled := b } = .ok { w with enabled := b } := by
  unfold indexed at h ⊢
  dsimp only
  split at h
  · next nodes hnodes =>
    have hindex : (⟨nodes, GraphIndex.leavingOf w.connections⟩ : GraphIndex) = w.index :=
      congrArg Workflow.index (Except.ok.inj h)
    rw [hindex]
  · cases h

theorem Settled.withEnabled {w : Workflow} (h : w.Settled) (b : Bool) :
    Settled { w with enabled := b } :=
  ⟨h.nodes, h.connections, indexed_withEnabled h.index b⟩

theorem Sound.withEnabled {w : Workflow} (h : w.Sound) (b : Bool) :
    Sound { w with enabled := b } :=
  ⟨h.nodes, h.connections, indexed_withEnabled h.index b⟩

/-- **Loading and writing are inverse**: a workflow that was loaded from a document of finite numbers
is loaded from the document it is written as, and is the same then, with its graph. -/
theorem load_document_of_load {v : Value} {w : Workflow} (hv : Json.Storable Number.Finite v)
    (h : load v = .ok w) : load w.document = .ok w := by
  obtain ⟨hnodes, hconnections, hindex⟩ := sources_of_load hv h
  have hdata : ∀ n ∈ w.nodes, Json.Storable Number.Finite (.object n.data) := by
    intro n hn
    obtain ⟨u, hu, hread⟩ := hnodes n hn
    exact Node.storable_data hu hread
  have hparams : ∀ n ∈ w.nodes, Params.read n.kind n.data = .ok n.params := by
    intro n hn
    obtain ⟨u, -, hread⟩ := hnodes n hn
    obtain ⟨_, -, -, -, -, -, hparams⟩ := Node.sources_of_read hread
    exact hparams
  rw [document_eq hdata]
  exact load_toValue hparams hconnections hindex

end Workflow

/-! ## A drawing -/

namespace Drawing

/-- The node that asks, drawn by hand: its id is a number, and its kind of trigger is left blank. -/
def askDocument : Value :=
  .object [("id", .number (.int 1)), ("type", .text "trigger"), ("x", .number (.int 5)),
    ("data", .object [("trigger_type", .text ""), ("trigger_content", .number (.int 5)),
      ("note", .null)])]

/-- The node that computes: an action of a kind with a record of its own. -/
def sumDocument : Value :=
  .object [("id", .text "sum"), ("type", .text "action"),
    ("data", .object [("action_type", .text "math"), ("operand1", .number (.int 2)),
      ("shade", .bool true)])]

/-- **A workflow as the drawing editor leaves it**: its nodes by name, its connection under the
editor's own names and with a port in another spelling. -/
def document : Value :=
  .object [("id", .number (.int 7)), ("enabled", .number (.int 0)),
    ("nodes", .object [("first", askDocument), ("second", sumDocument)]),
    ("connections", .list [
      .object [("from", .number (.int 1)), ("to", .text "sum"), ("port", .text "output-1")]])]

/-- The node that asks, as it is loaded. -/
def ask : Node :=
  ⟨"1", "trigger", Double.ofInt 5, Node.origin,
    [("trigger_type", .text ""), ("trigger_content", .number (.int 5)), ("note", .null)],
    .trigger ⟨"exact", "5", "", []⟩⟩

/-- The node that computes, as it is loaded. -/
def sum : Node :=
  ⟨"sum", "action", Node.origin, Node.origin,
    [("action_type", .text "math"), ("operand1", .number (.int 2)), ("shade", .bool true)],
    .math ⟨"add", "2", "0", "math_result", [("action_type", .text "math"), ("shade", .bool true)]⟩⟩

/-- The drawing as it is loaded. -/
def workflow : Workflow where
  id := "7"
  name := "untitled"
  triggerType := "exact"
  triggerContent := ""
  enabled := false
  stopPropagation := false
  nodes := [ask, sum]
  connections := [⟨"1", "sum", successPort⟩]
  index := ⟨[("1", ask), ("sum", sum)], [("1", [(successPort, [⟨"1", "sum", successPort⟩])])]⟩

theorem load_document : Workflow.load document = .ok workflow := rfl

theorem storable_document : Json.Storable Number.Finite document := by
  have hint (n : Int) : Json.Storable Number.Finite (.number (.int n)) := .number trivial
  have hask : Json.Storable Number.Finite askDocument := by
    refine .object (by simp [Table.keys]) ?_
    simp only [List.forall_mem_cons]
    refine ⟨hint 1, .text _, hint 5, .object (by simp [Table.keys]) ?_, List.forall_mem_nil _⟩
    simp only [List.forall_mem_cons]
    exact ⟨.text _, hint 5, .null, List.forall_mem_nil _⟩
  have hsum : Json.Storable Number.Finite sumDocument := by
    refine .object (by simp [Table.keys]) ?_
    simp only [List.forall_mem_cons]
    refine ⟨.text _, .text _, .object (by simp [Table.keys]) ?_, List.forall_mem_nil _⟩
    simp only [List.forall_mem_cons]
    exact ⟨.text _, hint 2, .bool _, List.forall_mem_nil _⟩
  have hway : Json.Storable Number.Finite
      (.object [("from", .number (.int 1)), ("to", .text "sum"), ("port", .text "output-1")]) := by
    refine .object (by simp [Table.keys]) ?_
    simp only [List.forall_mem_cons]
    exact ⟨hint 1, .text _, .text _, List.forall_mem_nil _⟩
  refine .object (by simp [Table.keys]) ?_
  simp only [List.forall_mem_cons]
  refine ⟨hint 7, hint 0, .object (by simp [Table.keys]) ?_,
    .list (List.forall_mem_singleton.mpr hway), List.forall_mem_nil _⟩
  simp only [List.forall_mem_cons]
  exact ⟨hask, hsum, List.forall_mem_nil _⟩

end Drawing

/-- The drawing is loaded again as it was, under the names and the port of the first editor. -/
theorem Workflow.load_document_of_load_drawing :
    Json.Storable Number.Finite Drawing.document ∧
      Workflow.load Drawing.document = .ok Drawing.workflow ∧
      Workflow.load Drawing.workflow.document = .ok Drawing.workflow :=
  ⟨Drawing.storable_document, Drawing.load_document,
    load_document_of_load Drawing.storable_document Drawing.load_document⟩

/-! ## A gauge -/

namespace Gauge

/-- A workflow of one node with a reading among its parameters. -/
def document (reading : Value) : Value :=
  .object [("id", .text "gauge"),
    ("nodes", .list [
      .object [("id", .text "wait"), ("type", .text "delay"),
        ("data", .object [("reading", reading)])]])]

/-- The gauge with a node. -/
def holding (n : Node) : Workflow where
  id := "gauge"
  name := "untitled"
  triggerType := "exact"
  triggerContent := ""
  enabled := true
  stopPropagation := false
  nodes := [n]
  connections := []
  index := ⟨[("wait", n)], []⟩

/-- **The gauge as it is loaded**, with a number. -/
def workflow (n : Number) : Workflow :=
  holding ⟨"wait", "delay", Node.origin, Node.origin, [("reading", .number n)],
    .delay ⟨.int 1, [("reading", .number n)]⟩⟩

/-- **The gauge as it is loaded**, with nothing in the place of the number. -/
def blank : Workflow :=
  holding ⟨"wait", "delay", Node.origin, Node.origin, [("reading", .null)], .delay ⟨.int 1, []⟩⟩

theorem load_document (n : Number) :
    Workflow.load (document (.number n)) = .ok (workflow n) := rfl

theorem storable_document {reading : Value} (h : Json.Storable Number.Writable reading) :
    Json.Storable Number.Writable (document reading) := by
  have hnode : Json.Storable Number.Writable (.object [("id", .text "wait"),
      ("type", .text "delay"), ("data", .object [("reading", reading)])]) := by
    refine .object (by simp [Table.keys]) ?_
    simp only [List.forall_mem_cons]
    exact ⟨.text _, .text _, .object (by simp [Table.keys]) (List.forall_mem_singleton.mpr h),
      List.forall_mem_nil _⟩
  refine .object (by simp [Table.keys]) ?_
  simp only [List.forall_mem_cons]
  exact ⟨.text _, .list (List.forall_mem_singleton.mpr hnode), List.forall_mem_nil _⟩

/-- With a finite number the gauge is an authored workflow. -/
theorem authored_workflow {n : Number} (h : n.Writable)
    (hfinite : (Value.number n).allFinite = true) : (workflow n).Authored := by
  refine ⟨_, storable_document (.number h), load_document n, List.forall_mem_singleton.mpr ?_⟩
  rw [Value.allFinite, Value.allFiniteFields, hfinite]
  rfl

theorem authored_blank : blank.Authored :=
  ⟨_, storable_document .null, rfl, List.forall_mem_singleton.mpr rfl⟩

theorem workflow_ne_blank (n : Number) : workflow n ≠ blank := by
  simp [workflow, blank, holding]

/-- A number that is not finite is not written. -/
theorem document_eq : (workflow (.double .nan)).document = blank.document := rfl

end Gauge

end ChatFlow
