import ChatFlow.Proofs.Checks
import ChatFlow.Proofs.Workflow.Loading

/-!
# What a workflow is made of

A document is read field by field. Nothing is wrong with it exactly if nothing is wrong with any field.

* `Node.speaks_read`, `Connection.speaks_read` — what is refused is refused for a defect;
* `Node.id_of_read` — the id of a node is the one that its document names;
* `Workflow.Made` — a workflow that has its fields from a document;
* `Workflow.readFields_iff` — **the fields of a workflow are read exactly if each of them is**.
-/

namespace ChatFlow

open Schema

/-! ## Nodes and connections -/

theorem Params.ofTable_ne (kind : String) (data : Table Value) : ofTable kind data ≠ .error [] := by
  have hrecord {α : Type} (fields : Fields α) (f : α → Params) :
      (finish fields).map f ≠ .error [] := map_ne f (finish_ne fields)
  unfold ofTable ofAction
  split
  case h_3 => split <;> exact hrecord _ _
  case h_12 => nofun
  all_goals exact hrecord _ _

theorem Node.speaks_read : Speaks Node.read := fun v =>
  bind_ne (speaks_record v) fun _ => bind_ne (finish_ne _) fun _ =>
    bind_ne (Params.ofTable_ne _ _) fun _ => nofun

theorem Connection.speaks_read : Speaks Connection.read := by
  intro v
  refine bind_ne (speaks_record v) fun data => bind_ne ?_ fun _ => finish_ne _
  cases (firstPresent data ["from_output", "port"] successPort).show? <;> nofun

/-- The id of a node is the one that its document names. -/
theorem Node.id_of_read {v : Value} {n : Node} (h : Node.read v = .ok n) :
    text (v.get "id") = .ok n.id := by
  obtain ⟨data, hdata, h⟩ := exists_of_bind_ok h
  obtain ⟨fields, hfields, h⟩ := exists_of_bind_ok h
  obtain ⟨params, -, h⟩ := exists_of_bind_ok h
  obtain rfl := Except.ok.inj h
  rw [readFields] at hfields
  obtain ⟨id, ⟨u, hu, hid⟩, -, -, -, -, -, -, -, -, -, -, rfl⟩ := (Yields.finish_iff
    ((yields_required speaks_text).bind fun _ => (yields_required speaks_text).bind fun _ =>
      (yields_optional speaks_real).bind fun _ => (yields_optional speaks_real).bind fun _ =>
      (yields_optional speaks_map).bind fun _ => (yields_optional speaks_record).bind fun _ =>
      yields_pure _) fields).mp hfields
  rw [eq_of_record hdata, Value.get, Value.field?, hu]
  exact hid

namespace Workflow

/-! ## Fields -/

/-- **A workflow that has its fields from a document**, but for its graph. -/
structure Made (data : Table Value) (w : Workflow) : Prop where
  /-- the id -/
  id : Given data "id" text w.id
  /-- the name -/
  name : Taken data "name" text "untitled" w.name
  /-- when it fires -/
  triggerType : Taken data "trigger_type" text "exact" w.triggerType
  /-- on what it fires -/
  triggerContent : Taken data "trigger_content" text "" w.triggerContent
  /-- the switch -/
  enabled : Taken data "enabled" flag true w.enabled
  /-- whether later workflows do not see its messages -/
  stopPropagation : Taken data "stop_propagation" flag false w.stopPropagation
  /-- the nodes -/
  nodes : Taken data "nodes" (items Node.read) [] w.nodes
  /-- the connections -/
  connections : Taken data "connections" (items Connection.read) [] w.connections

/-- **The fields of a workflow are read** exactly if each of them is. -/
theorem readFields_iff {data : Table Value} {w : Workflow} :
    readFields data = .ok w ↔ Made data w ∧ w.index = ⟨[], []⟩ := by
  have hnode := speaks_items Node.speaks_read
  have hconnection := speaks_items Connection.speaks_read
  rw [readFields]
  refine Iff.trans (Yields.finish_iff ((yields_required speaks_text).bind fun _ =>
    (yields_optional speaks_text).bind fun _ => (yields_optional speaks_text).bind fun _ =>
    (yields_optional speaks_text).bind fun _ => (yields_optional speaks_flag).bind fun _ =>
    (yields_optional speaks_flag).bind fun _ => (yields_optional hnode).bind fun _ =>
    (yields_optional hconnection).bind fun _ => yields_pure _) w) ?_
  constructor
  · rintro ⟨_, hid, _, hname, _, htype, _, hcontent, _, henabled, _, hstop, _, hnodes, _,
      hconnections, rfl⟩
    exact ⟨⟨hid, hname, htype, hcontent, henabled, hstop, hnodes, hconnections⟩, rfl⟩
  · rintro ⟨h, hindex⟩
    exact ⟨_, h.id, _, h.name, _, h.triggerType, _, h.triggerContent, _, h.enabled, _,
      h.stopPropagation, _, h.nodes, _, h.connections, by rw [← hindex]⟩

/-- But for nodes and connections, an arranged document is as it was. -/
theorem get?_arranged_of_ne (data : Table Value) {key : String} (hnodes : key ≠ "nodes")
    (hconnections : key ≠ "connections") : (arranged data).get? key = data.get? key := by
  rw [get?_arranged, if_neg hconnections, if_neg hnodes]

/-- **What a loaded workflow is made of.** -/
theorem made_of_load {data : Table Value} {w : Workflow} (h : load (.object data) = .ok w) :
    Made (arranged data) w := by
  obtain ⟨found, hfound, h⟩ := exists_of_bind_ok (ok_of_mapError_ok h)
  obtain rfl := Except.ok.inj hfound
  obtain ⟨fields, hfields, h⟩ := exists_of_bind_ok h
  obtain ⟨hmade, -⟩ := readFields_iff.mp hfields
  rw [(eq_of_indexed h).1]
  exact ⟨hmade.id, hmade.name, hmade.triggerType, hmade.triggerContent, hmade.enabled,
    hmade.stopPropagation, hmade.nodes, hmade.connections⟩

end Workflow

end ChatFlow
