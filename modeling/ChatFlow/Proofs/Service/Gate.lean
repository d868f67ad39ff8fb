import ChatFlow.Proofs.Workflow.Triggers
import ChatFlow.Service.Gate

/-!
# What the gate lets pass

The gate looks at a workflow as it was sent; what runs is the workflow as it is loaded. Whatever the
gate takes for harmless is loaded without triggers of the kinds that fire on any text.

* `Gate.dataNeeds_of_anyNeeds` — the gate looks at every node;
* `Gate.not_armed` — **a node that it lets pass is loaded unarmed**;
* `Gate.mem_of_nodesOf` — the nodes that are loaded are nodes that were sent;
* `Gate.unarmed_of_load` — **a workflow that it lets pass is loaded unarmed**.
-/

namespace ChatFlow

open Schema

namespace Gate

/-! ## Nodes -/

/-- Where no node needs the password, no trigger's data do. -/
theorem dataNeeds_of_anyNeeds {nodes : List Value} (h : anyNeeds nodes = .ok false) :
    ∀ node ∈ nodes, isTrigger node = true → dataNeeds (node.get "data") = .ok false := by
  induction nodes with
  | nil => exact fun _ hnode => absurd hnode List.not_mem_nil
  | cons first rest ih =>
    rw [anyNeeds] at h
    rw [List.forall_mem_cons]
    split at h
    · obtain ⟨needs, hneeds, h⟩ := exists_of_bind_ok h
      cases needs with
      | true => cases h
      | false => exact ⟨fun _ => hneeds, ih h⟩
    · next hother => exact ⟨fun htrigger => absurd htrigger hother, ih h⟩

/-- Data that name a kind that fires on any text need the password. -/
theorem dataNeeds_of_kind {entries : Table Value} {kind : String}
    (hkind : kind ∈ Trigger.masterKinds) (h : entries.get? "trigger_type" = some (.text kind)) :
    dataNeeds (.object entries) = .ok true := by
  have hpresent : Value.present (.text kind) = true := by
    refine decide_eq_true ?_
    rintro rfl
    exact absurd hkind (by decide)
  simp [dataNeeds, h, Value.orNull, hpresent, Value.show?, hkind]

/-- **A node that the gate lets pass is loaded unarmed.** -/
theorem not_armed {kind : Number → Prop} {v : Value} {n : Node} (hv : Json.Storable kind v)
    (hread : Node.read v = .ok n)
    (h : isTrigger v = true → dataNeeds (v.get "data") = .ok false) : ¬ n.Armed := by
  rintro ⟨htrigger, name, hname, hget⟩
  obtain ⟨data, rfl, hkind, -, -, hdata, -⟩ := Node.sources_of_read hread
  have hgate : isTrigger (.object data) = true := by
    rw [htrigger] at hkind
    rcases hkind with hblank | ⟨u, hu, htext⟩
    · exact absurd hblank (by decide)
    · rw [isTrigger, Value.get, Value.field?, hu,
        (hv.get? hu).eq_text_of_text htext (by decide)]
      rfl
  rcases hdata with hempty | hdata
  · rw [hempty] at hget
    cases hget
  · have hneeds := h hgate
    rw [Value.get, Value.field?, hdata, Value.orNull, dataNeeds_of_kind hname hget] at hneeds
    cases hneeds

/-! ## Workflows -/

/-- The nodes that are loaded are among those that the gate looks at. -/
theorem mem_of_nodesOf {data : Table Value} {sent : List Value} {l : Value}
    (hsent : nodesOf (Value.orNull (data.get? "nodes")) = .ok sent)
    (hl : (Workflow.arranged data).get? "nodes" = some l) : ∀ v ∈ l.items, v ∈ sent := by
  rw [Workflow.get?_arranged, if_neg (by decide), if_pos rfl] at hl
  obtain ⟨nodes, hnodes, rfl⟩ := Option.map_eq_some_iff.mp hl
  rw [hnodes] at hsent
  intro v hv
  cases nodes with
  | object entries =>
    obtain rfl := Except.ok.inj hsent
    exact hv
  | list items =>
    obtain rfl := Except.ok.inj hsent
    exact hv
  | tuple items =>
    obtain rfl := Except.ok.inj hsent
    exact hv
  | _ => exact absurd hv List.not_mem_nil

/-- **A workflow whose nodes the gate lets pass is loaded unarmed.** -/
theorem unarmed_of_load {data : Table Value} {w : Workflow} {sent : List Value}
    (hdata : Json.Storable Number.Writable (.object data))
    (hsent : nodesOf (Value.orNull (data.get? "nodes")) = .ok sent)
    (hneeds : anyNeeds sent = .ok false) (h : Workflow.load (.object data) = .ok w) :
    w.Unarmed := by
  rw [(Workflow.sound_of_load hdata h).unarmed_iff]
  obtain ⟨_, hsame, hnodes⟩ := Workflow.exists_of_mem_nodes h
  obtain rfl := Value.object.inj hsame
  intro n hn
  obtain ⟨l, v, hl, hv, hread⟩ := hnodes n hn
  have hstorable := ((Workflow.storable_arranged hdata).get? hl).item hv
  exact not_armed hstorable hread (dataNeeds_of_anyNeeds hneeds v (mem_of_nodesOf hsent hl v hv))

/-- What the gate has looked at when it takes a workflow for harmless. -/
theorem exists_of_needsMaster {entries : Table Value}
    (h : needsMaster (.object entries) = .ok false) :
    ∃ sent, nodesOf (Value.orNull (entries.get? "nodes")) = .ok sent ∧
      anyNeeds sent = .ok false := by
  rw [needsMaster] at h
  split at h
  · cases h
  · exact exists_of_bind_ok h

end Gate

end ChatFlow
