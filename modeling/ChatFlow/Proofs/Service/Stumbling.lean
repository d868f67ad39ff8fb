import ChatFlow.Proofs.Json.Documents
import ChatFlow.Proofs.Service.Gate

/-!
# What the gate stumbles over

The gate looks at a workflow before it is known to be one. It takes the nodes for something that has
items, and the data of a trigger for a map.

* `Json.Storable.exists_show` — what a document can hold has a plain text;
* `Gate.nodeNeeds_error_iff` — a node that the gate stumbles over is a trigger with other data;
* `Gate.Stumbles` — a workflow as it was sent that the gate stumbles over, before it knows whether the
  password is needed;
* `Gate.needsMaster_error_iff` — **the gate fails for these workflows, and for no others**.
-/

namespace ChatFlow

/-! ## Plain text -/

namespace Json

open Value

theorem exists_literals {items : List Value} (h : ∀ v ∈ items, ∃ s, literal v = .ok s) :
    ∃ parts, literals items = .ok parts := by
  induction items with
  | nil => exact ⟨[], rfl⟩
  | cons v rest ih =>
    rw [List.forall_mem_cons] at h
    obtain ⟨first, hfirst⟩ := h.1
    obtain ⟨others, hothers⟩ := ih h.2
    refine ⟨first :: others, ?_⟩
    rw [literals, hfirst, hothers]
    rfl

theorem exists_entryLiterals {fields : List (String × Value)}
    (h : ∀ entry ∈ fields, ∃ s, literal entry.2 = .ok s) :
    ∃ parts, entryLiterals fields = .ok parts := by
  induction fields with
  | nil => exact ⟨[], rfl⟩
  | cons entry rest ih =>
    obtain ⟨key, v⟩ := entry
    rw [List.forall_mem_cons] at h
    obtain ⟨first, hfirst⟩ := h.1
    obtain ⟨others, hothers⟩ := ih h.2
    refine ⟨(quoteText key.toList ++ ':' :: ' ' :: first) :: others, ?_⟩
    rw [entryLiterals, hfirst, hothers]
    rfl

theorem Storable.exists_literal {v : Value} (h : Storable Number.Writable v) :
    ∃ s, literal v = .ok s := by
  induction h with
  | null => exact ⟨_, rfl⟩
  | bool b => exact ⟨_, rfl⟩
  | @number n hn =>
    cases n with
    | int n =>
      refine ⟨(intText n).toList, ?_⟩
      rw [Number.Writable] at hn
      rw [literal, Number.literal, Number.intText?, if_pos hn]
      rfl
    | double x => exact ⟨_, rfl⟩
  | text s => exact ⟨_, rfl⟩
  | list _ ih =>
    obtain ⟨parts, hparts⟩ := exists_literals ih
    refine ⟨bracketed '[' ']' parts, ?_⟩
    rw [literal, hparts]
    rfl
  | object _ _ ih =>
    obtain ⟨parts, hparts⟩ := exists_entryLiterals ih
    refine ⟨bracketed '\x7b' '\x7d' parts, ?_⟩
    rw [literal, hparts]
    rfl

/-- **What a document can hold has a plain text.** -/
theorem Storable.exists_show {v : Value} (h : Storable Number.Writable v) :
    ∃ s, v.show? = .ok s := by
  obtain ⟨s, hs⟩ := h.exists_literal
  cases v with
  | text t => exact ⟨t, rfl⟩
  | _ =>
    refine ⟨String.ofList s, ?_⟩
    rw [show?, hs]
    · rfl
    · intro t ht
      cases ht

end Json

namespace Gate

/-! ## Nodes -/

/-- Whether a node fires on any text. -/
def nodeNeeds (node : Value) : Except Fault Bool :=
  if isTrigger node then dataNeeds (node.get "data") else .ok false

theorem anyNeeds_cons (node : Value) (rest : List Value) :
    anyNeeds (node :: rest) =
      nodeNeeds node >>= fun needs => if needs then pure true else anyNeeds rest := by
  rw [anyNeeds, nodeNeeds]
  split <;> rfl

/-- **A trigger with data that are no map**, and not nothing either. -/
structure Misplaced (node : Value) : Prop where
  /-- the node is a trigger -/
  trigger : isTrigger node = true
  /-- there are data -/
  present : (node.get "data").present = true
  /-- they are no map -/
  other (fields : Table Value) : node.get "data" ≠ .object fields

/-- Data that a document can hold are no map where the gate stumbles over them. -/
theorem dataNeeds_error_iff {data : Value} (h : Json.Storable Number.Writable data) :
    (∃ f, dataNeeds data = .error f) ↔
      data.present = true ∧ ∀ fields : Table Value, data ≠ .object fields := by
  have hother (v : Value) (hdata : dataNeeds v =
        if v.present then .error (.noMember v.kindName "get") else .ok false)
      (hv : ∀ fields : Table Value, v ≠ .object fields) : (∃ f, dataNeeds v = .error f) ↔
        v.present = true ∧ ∀ fields : Table Value, v ≠ .object fields := by
    rw [hdata]
    split
    · next hpresent => exact iff_of_true ⟨_, rfl⟩ ⟨hpresent, hv⟩
    · next hnone => exact iff_of_false nofun fun hboth => hnone hboth.1
  cases h with
  | @object entries hkeys hentries =>
    refine iff_of_false ?_ fun hboth => hboth.2 entries rfl
    rintro ⟨f, hf⟩
    unfold dataNeeds at hf
    dsimp only at hf
    split at hf
    · next hpresent =>
      rcases hv : Table.get? entries "trigger_type" with _ | v <;> rw [hv] at hf
      · cases hf
      · obtain ⟨s, hs⟩ := ((Json.Storable.object hkeys hentries).get? hv).exists_show
        rw [Value.orNull, hs] at hf
        cases hf
    · cases hf
  | _ =>
    refine hother _ rfl fun fields hdata => ?_
    cases hdata

theorem storable_get {kind : Number → Prop} {v : Value} (h : Json.Storable kind v) (key : String) :
    Json.Storable kind (v.get key) := by
  cases h with
  | @object entries hkeys hentries =>
    rw [Value.get, Value.field?]
    rcases hv : Table.get? entries key with _ | u
    · exact .null
    · exact (Json.Storable.object hkeys hentries).get? hv
  | _ => exact .null

theorem nodeNeeds_error_iff {node : Value} (h : Json.Storable Number.Writable node) :
    (∃ f, nodeNeeds node = .error f) ↔ Misplaced node := by
  rw [nodeNeeds]
  split
  · next htrigger =>
    rw [dataNeeds_error_iff (storable_get h "data")]
    exact ⟨fun hdata => ⟨htrigger, hdata.1, hdata.2⟩, fun hnode => ⟨hnode.present, hnode.other⟩⟩
  · next hother => exact iff_of_false nofun fun hnode => hother hnode.trigger

/-- **Nodes that the gate stumbles over**: one is misplaced, and none before it needs the password. -/
inductive Trips : List Value → Prop where
  /-- the first one is -/
  | here {node : Value} {rest : List Value} (h : Misplaced node) : Trips (node :: rest)
  /-- one behind it is -/
  | behind {node : Value} {rest : List Value} (hfree : nodeNeeds node = .ok false) (h : Trips rest) :
    Trips (node :: rest)

theorem anyNeeds_error_iff {nodes : List Value}
    (h : ∀ node ∈ nodes, Json.Storable Number.Writable node) :
    (∃ f, anyNeeds nodes = .error f) ↔ Trips nodes := by
  induction nodes with
  | nil => exact iff_of_false nofun nofun
  | cons first rest ih =>
    rw [List.forall_mem_cons] at h
    have hfirst := nodeNeeds_error_iff h.1
    rw [anyNeeds_cons]
    rcases hneeds : nodeNeeds first with f | _ | _ <;> rw [hneeds] at hfirst
    · exact iff_of_true ⟨f, rfl⟩ (.here (hfirst.mp ⟨f, rfl⟩))
    · refine (ih h.2).trans ⟨.behind hneeds, fun htrips => ?_⟩
      cases htrips with
      | here hnode => obtain ⟨_, ⟨⟩⟩ := hfirst.mpr hnode
      | behind _ hrest => exact hrest
    · refine iff_of_false nofun fun htrips => ?_
      cases htrips with
      | here hnode => obtain ⟨_, ⟨⟩⟩ := hfirst.mpr hnode
      | behind hfree _ => cases hneeds.symm.trans hfree

/-! ## Workflows -/

/-- Nodes that have no items: a number other than zero, or the truth value "true". -/
def Unlisted (nodes : Value) : Prop :=
  nodes.present = true ∧ ((∃ b, nodes = .bool b) ∨ ∃ n, nodes = .number n)

theorem nodesOf_error_iff (nodes : Value) : (∃ f, nodesOf nodes = .error f) ↔ Unlisted nodes := by
  have hother (v : Value) (hnodes : nodesOf v = if v.present then
        .error (.wrongType ("'" ++ v.kindName ++ "' object is not iterable")) else .ok [])
      (hv : (∃ b, v = .bool b) ∨ ∃ n, v = .number n) : (∃ f, nodesOf v = .error f) ↔ Unlisted v := by
    rw [hnodes]
    split
    · next hpresent => exact iff_of_true ⟨_, rfl⟩ ⟨hpresent, hv⟩
    · next hnone => exact iff_of_false nofun fun hboth => hnone hboth.1
  cases nodes with
  | bool b => exact hother _ rfl (.inl ⟨b, rfl⟩)
  | number n => exact hother _ rfl (.inr ⟨n, rfl⟩)
  | _ => exact iff_of_false nofun (by simp [Unlisted])

theorem storable_nodesOf {kind : Number → Prop} {v : Value} {nodes : List Value}
    (h : Json.Storable kind v) (hnodes : nodesOf v = .ok nodes) :
    ∀ node ∈ nodes, Json.Storable kind node := by
  unfold nodesOf at hnodes
  split at hnodes
  · obtain rfl := Except.ok.inj hnodes
    intro node hnode
    obtain ⟨entry, hentry, rfl⟩ := List.mem_map.mp hnode
    exact (Json.storable_object_iff.mp h).2 entry hentry
  · obtain rfl := Except.ok.inj hnodes
    exact Json.storable_list_iff.mp h
  · cases h
  · obtain rfl := Except.ok.inj hnodes
    exact List.forall_mem_nil _
  · obtain rfl := Except.ok.inj hnodes
    exact List.forall_mem_nil _
  · split at hnodes
    · cases hnodes
    · obtain rfl := Except.ok.inj hnodes
      exact List.forall_mem_nil _

/-- **A workflow that the gate stumbles over**: its own kind does not need the password, and its nodes
have no items, or the gate stumbles over those. -/
structure Stumbles (entries : Table Value) : Prop where
  /-- the workflow itself is not of a kind that needs the password -/
  kind : isMasterKind (Value.orNull (entries.get? "trigger_type")) = false
  /-- what is in the way among the nodes -/
  nodes : Unlisted (Value.orNull (entries.get? "nodes")) ∨
    ∃ sent, nodesOf (Value.orNull (entries.get? "nodes")) = .ok sent ∧ Trips sent

/-- **The gate fails for the workflows that it stumbles over**, and for no others. -/
theorem needsMaster_error_iff {entries : Table Value}
    (h : Json.Storable Number.Writable (.object entries)) :
    (∃ f, needsMaster (.object entries) = .error f) ↔ Stumbles entries := by
  have hunlisted := nodesOf_error_iff (Value.orNull (entries.get? "nodes"))
  have hstorable : Json.Storable Number.Writable (Value.orNull (entries.get? "nodes")) := by
    rcases hv : entries.get? "nodes" with _ | v
    · exact .null
    · exact h.get? hv
  rw [needsMaster]
  split
  · next hkind =>
    refine iff_of_false ?_ fun hstumbles => ?_
    · rintro ⟨f, hf⟩
      cases hf
    · rw [hstumbles.kind] at hkind
      cases hkind
  next hkind =>
  rw [Bool.not_eq_true] at hkind
  rcases hnodes : nodesOf (Value.orNull (entries.get? "nodes")) with f | sent
  · exact iff_of_true ⟨f, rfl⟩ ⟨hkind, .inl (hunlisted.mp ⟨f, hnodes⟩)⟩
  · refine (anyNeeds_error_iff (storable_nodesOf hstorable hnodes)).trans
      ⟨fun htrips => ⟨hkind, .inr ⟨sent, hnodes, htrips⟩⟩, fun hstumbles => ?_⟩
    rcases hstumbles.nodes with hnone | ⟨others, hothers, htrips⟩
    · obtain ⟨f, hf⟩ := hunlisted.mpr hnone
      cases hnodes.symm.trans hf
    · obtain rfl := Except.ok.inj (hnodes.symm.trans hothers)
      exact htrips

end Gate

end ChatFlow
