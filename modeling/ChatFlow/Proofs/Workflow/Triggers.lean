import ChatFlow.Engine.Trigger
import ChatFlow.Proofs.Number.Figures
import ChatFlow.Proofs.Workflow.Reloading

/-!
# Kinds of triggers

The kind of a trigger is read from the data of its node, and data can be read in more than one way: a
number is taken for its text, what is blank for a default. None of this makes a trigger of one of the
kinds that fire on any text: such a kind stands in the data in so many words.

* `Node.triggerKind?` — the kind of trigger a node is, as it is run;
* `Node.Armed` — a trigger whose data names a kind that fires on any text;
* `Node.armed_iff` — **the two say the same** of the nodes of a loaded workflow;
* `Workflow.Unarmed` — no node is a trigger of such a kind. `Workflow.Unarmed.reloaded` — **a
  workflow without them is still without them when it is loaded from what was written**.
-/

namespace ChatFlow

open Schema

/-! ## The kind of a trigger -/

/-- **The kind of trigger** that a node is, if it is one. -/
def Node.triggerKind? (n : Node) : Option String :=
  match n.params with
  | .trigger p => some p.triggerType
  | _ => none

namespace Params

/-- The record of a trigger is that of a node of the kind of triggers. -/
theorem trigger_of_read {kind : String} {data : Table Value} {p : TriggerParams}
    (h : read kind data = .ok (.trigger p)) :
    kind = "trigger" ∧ TriggerParams.ofTable (filled data) = .ok p := by
  unfold read ofTable at h
  split at h
  case h_1 =>
    obtain ⟨q, hq, hp⟩ := exists_of_map_ok h
    cases hp
    exact ⟨rfl, hq⟩
  case h_3 =>
    unfold ofAction at h
    split at h <;> obtain ⟨q, -, hp⟩ := exists_of_map_ok h <;> cases hp
  case h_12 => cases h
  all_goals
    obtain ⟨q, -, hp⟩ := exists_of_map_ok h
    cases hp

/-- Whether an entry of authored data is filled in. -/
def isFilled : Value → Bool
  | .null => false
  | .text s => s ≠ ""
  | _ => true

theorem filled_eq (data : Table Value) : filled data = data.filter fun entry => isFilled entry.2 := by
  rfl

theorem get?_filled {data : Table Value} (h : data.keys.Nodup) (key : String) :
    (filled data).get? key = (data.get? key).filter isFilled := by
  rw [filled_eq]
  exact Table.get?_filter h isFilled key

end Params

theorem TriggerParams.triggerType_eq {data : Table Value} {p : TriggerParams}
    (h : ofTable data = .ok p) :
    p.triggerType = (Params.word data "trigger_type" "exact" []).1 := by
  rw [eq_of_finish h]
  rfl

/-- **What is read as a word with a letter that is no figure** is the word itself. -/
theorem Json.Storable.eq_text_of_text {kind : Number → Prop} {v : Value} {word : String}
    (hv : Json.Storable kind v) (h : Schema.text v = .ok word)
    (hword : (word.toList.all isFigure) = false) : v = .text word := by
  cases hv with
  | text s => rw [Except.ok.inj h]
  | @number n _ => exact absurd (Except.ok.inj h) (numberText_ne n hword)
  | null => cases h
  | bool _ => cases h
  | list _ => cases h
  | object _ _ => cases h

theorem letter_of_masterKinds :
    ∀ kind ∈ Trigger.masterKinds, (kind.toList.all isFigure) = false := by
  decide

/-! ## Armed triggers -/

namespace Node

/-- **A trigger whose data names a kind that fires on any text.** -/
def Armed (n : Node) : Prop :=
  n.kind = "trigger" ∧ ∃ kind ∈ Trigger.masterKinds, n.data.get? "trigger_type" = some (.text kind)

/-- **A node is armed exactly if it is run as a trigger of such a kind.** -/
theorem armed_iff {kind : Number → Prop} {n : Node} (hdata : Json.Storable kind (.object n.data))
    (hparams : Params.read n.kind n.data = .ok n.params) :
    n.Armed ↔ ∃ kind ∈ Trigger.masterKinds, n.triggerKind? = some kind := by
  have hkeys := (Json.storable_object_iff.mp hdata).1
  constructor
  · rintro ⟨htrigger, name, hname, hget⟩
    rw [htrigger] at hparams
    obtain ⟨p, hp, hrecord⟩ := exists_of_map_ok (f := Params.trigger) hparams
    have hfilled : (Params.filled n.data).get? "trigger_type" = some (.text name) := by
      rw [Params.get?_filled hkeys, hget]
      refine Option.filter_some_pos (decide_eq_true ?_)
      rintro rfl
      revert hname
      decide
    have hkind : p.triggerType = name := by
      rw [TriggerParams.triggerType_eq hp, Params.word, optional_eq hfilled (a := name) rfl]
      rfl
    refine ⟨name, hname, ?_⟩
    rw [triggerKind?, ← hrecord, ← hkind]
  · rintro ⟨name, hname, hkind⟩
    rw [triggerKind?] at hkind
    split at hkind
    · next p hp =>
      obtain rfl := Option.some.inj hkind
      rw [hp] at hparams
      obtain ⟨htrigger, hrecord⟩ := Params.trigger_of_read hparams
      refine ⟨htrigger, p.triggerType, hname, ?_⟩
      have hword := TriggerParams.triggerType_eq hrecord
      rcases optional_cases (Params.filled n.data) "trigger_type" text "exact" [] with
        hdefault | ⟨v, hv, htext⟩
      · rw [hword, Params.word, hdefault] at hname
        exact absurd hname (by decide)
      · rw [Params.get?_filled hkeys, Option.filter_eq_some_iff] at hv
        change text v = .ok (Params.word (Params.filled n.data) "trigger_type" "exact" []).1 at htext
        rw [← hword] at htext
        rw [(hdata.get? hv.1).eq_text_of_text htext (letter_of_masterKinds _ hname)] at hv
        exact hv.1
    · cases hkind

/-- What is armed once it was written was armed before. -/
theorem armed_of_plain {kind : Number → Prop} {n m : Node}
    (hdata : Json.Storable kind (.object n.data)) (h : read n.plain.toValue = .ok m)
    (hm : m.Armed) : n.Armed := by
  rw [read_toValue_eq] at h
  obtain ⟨params, -, rfl⟩ := exists_of_map_ok h
  obtain ⟨htrigger, name, hname, hget⟩ := hm
  refine ⟨htrigger, name, hname, ?_⟩
  have hplain : (n.data.get? "trigger_type").map Value.plain = some (.text name) := by
    rw [← hget, ← Table.get?_map]
    exact congrArg (Table.get? · "trigger_type") (Json.plainFields_eq_map n.data).symm
  obtain ⟨v, hv, htext⟩ := Option.map_eq_some_iff.mp hplain
  rw [hv, (hdata.get? hv).eq_text_of_plain htext]

end Node

/-- **A workflow without triggers of the kinds that fire on any text.** -/
def Workflow.Unarmed (w : Workflow) : Prop :=
  ∀ n ∈ w.nodes, ∀ kind, n.triggerKind? = some kind → kind ∉ ["regex", "any", "scheduled", "timer"]

namespace Workflow

theorem Sound.unarmed_iff {w : Workflow} (h : w.Sound) : w.Unarmed ↔ ∀ n ∈ w.nodes, ¬ n.Armed := by
  refine forall₂_congr fun n hn => ?_
  rw [Node.armed_iff (h.nodes n hn).data (h.nodes n hn).params]
  constructor
  · rintro hkind ⟨kind, hmaster, hn⟩
    exact hkind kind hn hmaster
  · intro hnone kind hn hmaster
    exact hnone ⟨kind, hmaster, hn⟩

/-- **What was written of a workflow without such triggers** is loaded without them. -/
theorem Unarmed.reloaded {w x : Workflow} (hsound : w.Sound) (h : w.Unarmed)
    (hload : load w.document = .ok x) : x.Unarmed := by
  have hx := sound_of_load hsound.storable_document hload
  rw [hx.unarmed_iff]
  rw [hsound.unarmed_iff] at h
  obtain ⟨data, hdata, hnodes⟩ := exists_of_mem_nodes hload
  obtain rfl := Value.object.inj hdata
  intro m hm harmed
  obtain ⟨l, item, hl, hitem, hread⟩ := hnodes m hm
  obtain rfl : Value.list ((w.nodes.map Node.plain).map Node.toValue) = l := Option.some.inj hl
  rw [Value.items, List.map_map] at hitem
  obtain ⟨n, hn, rfl⟩ := List.mem_map.mp hitem
  exact h n hn (Node.armed_of_plain (hsound.nodes n hn).data hread harmed)

end Workflow

end ChatFlow
