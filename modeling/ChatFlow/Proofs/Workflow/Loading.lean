import ChatFlow.Proofs.Checks
import ChatFlow.Proofs.Results
import ChatFlow.Proofs.Tables
import ChatFlow.Workflow.Document
import Mathlib.Data.List.Nodup

/-!
# Loaded workflows

What a workflow is known to be once it was loaded:

* `Workflow.fits_of_load` — every node has the record of its kind;
* `Workflow.get?_arranged` — what is read of a document is what was sent;
* `Workflow.mem_of_node?` — a node that is found by an id is a node of the list, and has the id;
* `Loop.workflow` — a loop of two nodes, loaded from its document, as an example.
-/

namespace ChatFlow

open Schema

/-! ## Nodes -/

/-- Whether a record is that of a question. -/
def Params.isCondition : Params → Bool
  | .condition _ => true
  | _ => false

theorem exists_of_isCondition {p : Params} (h : p.isCondition = true) :
    ∃ q, p = .condition q := by
  cases p with
  | condition q => exact ⟨q, rfl⟩
  | _ => cases h

theorem Params.isCondition_of_ofAction {data : Table Value} {p : Params}
    (h : Params.ofAction data = .ok p) : p.isCondition = false := by
  unfold Params.ofAction at h
  split at h <;> obtain ⟨q, -, rfl⟩ := exists_of_map_ok h <;> rfl

/-- The record of a kind of node is that of a question exactly for conditions. -/
theorem Params.isCondition_of_read {kind : String} {data : Table Value} {p : Params}
    (h : Params.read kind data = .ok p) : p.isCondition = (kind = "condition" : Bool) := by
  unfold Params.read Params.ofTable at h
  split at h
  case h_3 => exact Params.isCondition_of_ofAction h
  case h_12 hc _ _ _ _ _ _ _ _ _ =>
    obtain rfl := Except.ok.inj h
    exact (decide_eq_false hc).symm
  all_goals
    obtain ⟨q, -, rfl⟩ := exists_of_map_ok h
    rfl

/-- **Whether a node has the record of its kind**, as far as questions go. -/
def Node.Fits (n : Node) : Prop := n.params.isCondition = n.isCondition

theorem Node.fits_of_read {v : Value} {n : Node} (h : Node.read v = .ok n) : n.Fits := by
  obtain ⟨data, -, h⟩ := exists_of_bind_ok h
  obtain ⟨node, -, h⟩ := exists_of_bind_ok h
  obtain ⟨params, hp, h⟩ := exists_of_bind_ok h
  obtain rfl := Except.ok.inj h
  exact Params.isCondition_of_read hp

/-! ## The graph -/

namespace GraphIndex

/-- A node of the index was there before, or is one of those indexed. -/
theorem mem_of_nodesFrom {seen table : Table Node} {nodes : List Node}
    (h : nodesFrom seen nodes = .ok table) {id : String} {n : Node} (hn : table.get? id = some n) :
    seen.get? id = some n ∨ n ∈ nodes ∧ n.id = id := by
  induction nodes generalizing seen with
  | nil =>
    obtain rfl := Except.ok.inj h
    exact .inl hn
  | cons node rest ih =>
    unfold nodesFrom at h
    split at h
    · cases h
    · rcases ih h with hs | ⟨hm, hid⟩
      · rw [Table.get?_insert] at hs
        split at hs
        · next hid =>
          obtain rfl := Option.some.inj hs
          exact .inr ⟨List.mem_cons_self, hid⟩
        · exact .inl hs
      · exact .inr ⟨List.mem_cons_of_mem _ hm, hid⟩

/-- **Nodes of an index have ids of their own**, which none before them has. -/
theorem nodup_of_nodesFrom {seen table : Table Node} {nodes : List Node}
    (h : nodesFrom seen nodes = .ok table) :
    (nodes.map Node.id).Nodup ∧ ∀ n ∈ nodes, seen.contains n.id = false := by
  induction nodes generalizing seen with
  | nil => exact ⟨List.nodup_nil, fun _ hn => absurd hn List.not_mem_nil⟩
  | cons node rest ih =>
    unfold nodesFrom at h
    split at h
    · cases h
    · next hseen =>
      obtain ⟨hnodup, hunseen⟩ := ih h
      -- what stands behind it is met by none of the rest
      have hother : ∀ n ∈ rest, node.id ≠ n.id ∧ seen.contains n.id = false := by
        intro n hn
        have hmiss := hunseen n hn
        rw [Table.contains, Table.get?_insert] at hmiss
        split at hmiss
        · cases hmiss
        · next hne => exact ⟨hne, hmiss⟩
      refine ⟨List.nodup_cons.mpr ⟨?_, hnodup⟩, ?_⟩
      · rintro hmem
        obtain ⟨n, hn, hid⟩ := List.mem_map.mp hmem
        exact (hother n hn).1 hid.symm
      · rw [List.forall_mem_cons]
        exact ⟨Bool.eq_false_iff.mpr hseen, fun n hn => (hother n hn).2⟩

end GraphIndex

namespace Workflow

/-- The index of a workflow is no part of what it is made from. -/
theorem eq_of_indexed {fields w : Workflow} (h : indexed fields = .ok w) :
    w = { fields with index := w.index } ∧ w.indexed = .ok w := by
  have hw := h
  unfold indexed at h
  split at h
  · next nodes hnodes =>
    obtain rfl := Except.ok.inj h
    exact ⟨rfl, hw⟩
  · cases h

/-- **Every loaded workflow is indexed.** -/
theorem indexed_of_load {v : Value} {w : Workflow} (h : load v = .ok w) : w.indexed = .ok w := by
  obtain ⟨data, -, h⟩ := exists_of_bind_ok (ok_of_mapError_ok h)
  obtain ⟨fields, -, h⟩ := exists_of_bind_ok h
  exact (eq_of_indexed h).2

/-- **The nodes of an indexed workflow are told apart by their ids.** -/
theorem eq_of_id {w : Workflow} (h : w.indexed = .ok w) {n m : Node} (hn : n ∈ w.nodes)
    (hm : m ∈ w.nodes) (hid : n.id = m.id) : n = m := by
  unfold indexed at h
  split at h
  · next hnodes =>
    exact List.inj_on_of_nodup_map (GraphIndex.nodup_of_nodesFrom hnodes).1 hn hm hid
  · cases h

/-- Nodes as a list, where they are a map. -/
def listed : Value → Value
  | .object entries => .list (entries.map Prod.snd)
  | v => v

/-- Connections, none of them where there is nothing. -/
def orNoItems : Option Value → Value
  | none => .list []
  | some .null => .list []
  | some v => v

/-- The document with its nodes as a list. -/
def withNodes (fields : Table Value) : Table Value :=
  match fields.get? "nodes" with
  | some (.object entries) => fields.insert "nodes" (.list (entries.map Prod.snd))
  | _ => fields

/-- The document with connections. -/
def withConnections (fields : Table Value) : Table Value :=
  match fields.get? "connections" with
  | none | some .null => fields.insert "connections" (.list [])
  | some _ => fields

theorem arranged_eq (fields : Table Value) : arranged fields = withConnections (withNodes fields) :=
  rfl

theorem get?_withNodes (fields : Table Value) (key : String) : (withNodes fields).get? key =
    if key = "nodes" then (fields.get? "nodes").map listed else fields.get? key := by
  rw [withNodes]
  rcases hnodes : fields.get? "nodes" with _ | (_ | _ | _ | _ | _ | _ | _ | entries)
  case some.object =>
    rw [Table.get?_insert]
    by_cases hkey : key = "nodes"
    · rw [if_pos hkey.symm, if_pos hkey]
      rfl
    · rw [if_neg (Ne.symm hkey), if_neg hkey]
  all_goals
    by_cases hkey : key = "nodes"
    · rw [if_pos hkey, hkey]
      exact hnodes
    · exact (if_neg hkey).symm

theorem get?_withConnections (fields : Table Value) (key : String) :
    (withConnections fields).get? key =
      if key = "connections" then some (orNoItems (fields.get? "connections"))
      else fields.get? key := by
  rw [withConnections]
  rcases hentry : fields.get? "connections" with _ | (_ | _ | _ | _ | _ | _ | _ | _)
  case none | some.null =>
    rw [Table.get?_insert]
    by_cases hkey : key = "connections"
    · rw [if_pos hkey.symm, if_pos hkey]
      rfl
    · rw [if_neg (Ne.symm hkey), if_neg hkey]
  all_goals
    by_cases hkey : key = "connections"
    · rw [if_pos hkey, hkey]
      exact hentry
    · exact (if_neg hkey).symm

/-- **What there is in an arranged document**: its nodes as a list, its connections, and the rest as
it was. -/
theorem get?_arranged (fields : Table Value) (key : String) : (arranged fields).get? key =
    if key = "connections" then some (orNoItems (fields.get? "connections"))
    else if key = "nodes" then (fields.get? "nodes").map listed
    else fields.get? key := by
  have hne : "connections" ≠ "nodes" := by decide
  rw [arranged_eq, get?_withConnections, get?_withNodes fields key,
    get?_withNodes fields "connections", if_neg hne]

theorem nodes_of_readFields {data : Table Value} {w : Workflow} (h : readFields data = .ok w) :
    ∃ found, w.nodes = (optional data "nodes" (items Node.read) [] found).1 := by
  rw [eq_of_finish h]
  exact ⟨_, rfl⟩

theorem connections_of_readFields {data : Table Value} {w : Workflow}
    (h : readFields data = .ok w) :
    ∃ found, w.connections = (optional data "connections" (items Connection.read) [] found).1 := by
  rw [eq_of_finish h]
  exact ⟨_, rfl⟩

/-- **Every node of a loaded workflow is read** from an item of its document's list of nodes. -/
theorem exists_of_mem_nodes {v : Value} {w : Workflow} (h : load v = .ok w) :
    ∃ data, v = .object data ∧ ∀ n ∈ w.nodes, ∃ l item,
      (arranged data).get? "nodes" = some l ∧ item ∈ l.items ∧ Node.read item = .ok n := by
  obtain ⟨data, hdata, h⟩ := exists_of_bind_ok (ok_of_mapError_ok h)
  obtain ⟨fields, hfields, h⟩ := exists_of_bind_ok h
  obtain ⟨found, hnodes⟩ := nodes_of_readFields hfields
  refine ⟨data, eq_of_record hdata, ?_⟩
  intro n hn
  rw [(eq_of_indexed h).1] at hn
  change n ∈ fields.nodes at hn
  rw [hnodes] at hn
  rcases optional_cases (arranged data) "nodes" (items Node.read) [] found with hd | ⟨l, hl, hread⟩
  · rw [hd] at hn
    cases hn
  · obtain ⟨item, hitem, hitemRead⟩ := exists_of_items hread n hn
    exact ⟨l, item, hl, hitem, hitemRead⟩

/-- What holds of every node that is read holds of every node of a loaded workflow. -/
theorem forall_nodes_of_load {P : Node → Prop} (hread : ∀ v n, Node.read v = .ok n → P n)
    {v : Value} {w : Workflow} (h : load v = .ok w) : ∀ n ∈ w.nodes, P n := by
  obtain ⟨data, -, hnodes⟩ := exists_of_mem_nodes h
  intro n hn
  obtain ⟨_, item, -, -, hitem⟩ := hnodes n hn
  exact hread item n hitem

/-- **Every node of a loaded workflow has the record of its kind.** -/
theorem fits_of_load {v : Value} {w : Workflow} (h : load v = .ok w) : ∀ n ∈ w.nodes, n.Fits :=
  forall_nodes_of_load (fun _ _ => Node.fits_of_read) h

/-- **A node found in a loaded workflow** is one of its nodes, and has the id. -/
theorem mem_of_node? {v : Value} {w : Workflow} (h : load v = .ok w) {id : String} {n : Node}
    (hn : w.node? id = some n) : n ∈ w.nodes ∧ n.id = id := by
  obtain ⟨data, -, h⟩ := exists_of_bind_ok (ok_of_mapError_ok h)
  obtain ⟨fields, -, h⟩ := exists_of_bind_ok h
  unfold indexed at h
  split at h
  · next nodes hi =>
    obtain rfl := Except.ok.inj h
    rcases GraphIndex.mem_of_nodesFrom hi hn with hs | hm
    · cases hs
    · exact hm
  · cases h

end Workflow

/-! ## A loop -/

namespace Loop

/-- **A loop of two nodes**: a trigger, and a reply that leads back to it. -/
def document : Value :=
  .object [("id", .text "loop"),
    ("nodes", .list [
      .object [("id", .text "ask"), ("type", .text "trigger"),
        ("data", .object [("trigger_content", .text "go")])],
      .object [("id", .text "say"), ("type", .text "action"),
        ("data", .object [("action_value", .text "hi")])]]),
    ("connections", .list [
      .object [("from_node", .text "ask"), ("to_node", .text "say")],
      .object [("from_node", .text "say"), ("to_node", .text "ask")]])]

/-- The trigger of the loop. -/
def ask : Node :=
  ⟨"ask", "trigger", Node.origin, Node.origin, [("trigger_content", .text "go")],
    .trigger ⟨"exact", "go", "", []⟩⟩

/-- The reply of the loop. -/
def say : Node :=
  ⟨"say", "action", Node.origin, Node.origin, [("action_value", .text "hi")],
    .action ⟨"reply_text", "hi", "", "", "qq", "", "", .bool false, .bool false, "", .bool false,
      "", "", "\x7b\x7d", "", "", "GET", "", "", .int 10, "json", "text", "", []⟩⟩

/-- The loop as it is loaded. -/
def workflow : Workflow where
  id := "loop"
  name := "untitled"
  triggerType := "exact"
  triggerContent := ""
  enabled := true
  stopPropagation := false
  nodes := [ask, say]
  connections := [⟨"ask", "say", successPort⟩, ⟨"say", "ask", successPort⟩]
  index := ⟨[("ask", ask), ("say", say)],
    [("ask", [(successPort, [⟨"ask", "say", successPort⟩])]),
      ("say", [(successPort, [⟨"say", "ask", successPort⟩])])]⟩

theorem load_document : Workflow.load document = .ok workflow := rfl

end Loop

end ChatFlow
