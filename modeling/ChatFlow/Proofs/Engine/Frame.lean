import ChatFlow.Proofs.Store.Places

/-!
# The frame of a node

A node changes variables that it declares, and no others; stored values are changed by storing nodes
only, and by those at their own place.

* `Conduct.framing` — variables stay as they are, those with certain names aside;
* `Node.run_store` — a node that stores nothing leaves stored values as they are;
* `Node.run_frame` — **the frame of every node**, whatever becomes of it.
-/

namespace ChatFlow

namespace Conduct

/-- **Variables stay as they are**, those with certain names aside. -/
def framing (names : List String) : Conduct where
  leads u v := ∀ name, name ∉ names → v.context.get? name = u.context.get? name
  hangs := True
  refl _ _ _ := rfl
  trans huv hvw name hname := (hvw name hname).trans (huv name hname)

variable (names : List String)

theorem tolerates_framing : (framing names).Tolerates where
  dice _ _ _ _ := rfl
  patterns _ _ _ _ := rfl
  network _ _ _ _ _ := rfl
  sleeps _ _ _ _ := rfl
  log _ _ _ _ := rfl
  disk _ _ _ _ := rfl

/-- The variables aside may be written. -/
theorem assigning_framing : Assigning (framing names).Kept names := by
  intro name hname v
  refine .change fun w other hother => Table.get?_insert_of_ne _ ?_ v
  rintro rfl
  exact hother hname

end Conduct

namespace Node

variable (scene : Scene) (node : Node)

/-- **A node writes variables that it declares**, and no others. -/
theorem run_context : (Node.run scene node).Keeps (.framing node.declares) := by
  have htolerates := Conduct.tolerates_framing node.declares
  refine htolerates.run (fun call => .call (fun _ _ _ => rfl) fun _ _ => trivial)
    (Conduct.assigning_framing _) (fun _ _ _ => ?_) fun _ _ _ => ?_
  · exact htolerates.owning fun _ _ _ _ _ => rfl
  · exact htolerates.sharing fun _ _ _ _ _ => rfl

variable {scene node} in
/-- **A node that stores nothing** leaves stored values as they are. -/
theorem run_store (h : ∀ scope p, node.params ≠ .storage scope p) :
    (Node.run scene node).Keeps .leavingStore :=
  Conduct.permits_leavingStore.run (fun _ => .call (fun _ => rfl) fun _ _ => trivial)
    (Conduct.permits_leavingStore.assigning _) (fun p hp => absurd hp (h _ p))
    fun p hp => absurd hp (h _ p)

variable {scene node} in
/-- A question stores nothing either. -/
theorem performIn_store (h : ∀ scope p, node.params ≠ .storage scope p) :
    (Walk.performIn scene node).Keeps .leavingStore := by
  unfold Walk.performIn
  split
  · exact (Conduct.permits_leavingStore.inward _).evaluate _
  · exact .bind (run_store h) fun _ => .pure _

/-- **The frame of a node.** However it ends, variables that it does not declare are what they were;
stored values are what they were, too, unless it is a storing node, and then all of them but the one
under its rendered key: the user's, or the one for everybody. -/
theorem run_frame (w : World) :
    (∀ name, name ∉ node.declares →
      (Node.run scene node w).2.context.get? name = w.context.get? name) ∧
    match node.params with
    | .storage scope p =>
      (Node.run scene node w).2.store = w.store ∨
        ∃ key, key ≠ "" ∧ (Template.render scene.occasion p.key w).1 = .done key ∧
          Store.SameBut scope scene.occasion.event.userId key w.store
            (Node.run scene node w).2.store
    | _ => (Node.run scene node w).2.store = w.store := by
  refine ⟨(run_context scene node w).1, ?_⟩
  split
  · next scope p hparams =>
    have hrun : Node.run scene node = Storage.run scope p scene.occasion := by
      rw [Node.run, hparams]
    rw [hrun]
    exact Storage.run_sameBut scope p scene.occasion w
  · next hother => exact (run_store hother w).1

end Node

end ChatFlow
