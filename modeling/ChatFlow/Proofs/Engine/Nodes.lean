import ChatFlow.Proofs.Engine.Conduct
import ChatFlow.Proofs.Workflow.Loading

/-!
# The conduct of nodes

A conduct that allows what nodes are made of is kept by every node, whatever its kind and however it
ends.

* `Conduct.Frees.performIn` — the work of every node;
* `Conduct.Frees.fires` — triggers;
* `Walk.performIn_other` — any node that asks nothing is left in one way only.
-/

namespace ChatFlow.Conduct.Frees

variable {c : Conduct}

/-- **Every trigger keeps to the conduct.** -/
theorem fires {platform : Platform} (h : c.Frees platform) (p : TriggerParams) (text : String) :
    (Trigger.fires p text).Keeps c := by
  -- a trigger asks for no user
  have hnobody : Discipline c.Kept "" platform := h.discipline fun w _ => h.store w _
  exact hnobody.fires p text

variable {scene : Scene} (h : c.Frees scene.surface.platform)

include h

/-- **The work of every node keeps to the conduct**, a question like any other. -/
theorem performIn (node : Node) : (Walk.performIn scene node).Keeps c :=
  (h.discipline fun w _ => h.store w _).performIn node (fun _ _ _ => h.sharing fun w _ _ => h.store w _)
    fun p _ => h.leaderboard p _

end ChatFlow.Conduct.Frees

/-! ## Questions and other nodes -/

namespace ChatFlow.Walk

/-- A question always has an answer, unless nothing ends: where it fails, the answer is no. -/
theorem evaluate_ne_failed (p : ConditionParams) (o : Occasion) (world : World) (f : Fault) :
    (Condition.evaluate p o world).1 ≠ .failed f := by
  unfold Condition.evaluate
  rcases Condition.Kind.ofName? p.conditionType with _ | kind
  · exact nofun
  · dsimp only
    rw [Act.run_bind, Act.attempt]
    rcases (Template.render o p.value >>= fun value => Condition.answer kind p.varName o value)
      world with ⟨_ | _ | _, after⟩ <;> exact nofun

theorem performIn_question {scene : Scene} {node : Node} {p : ConditionParams}
    (hp : node.params = .condition p) :
    performIn scene node = Condition.evaluate p scene.occasion := by
  rw [performIn, hp]

theorem performIn_other (scene : Scene) {node : Node} (h : node.params.isCondition = false) :
    performIn scene node = Node.run scene node >>= fun _ => pure true := by
  unfold performIn
  rcases hp : node.params with _ | _ | _ | _ | _ | _ | _ | _ | _ | _ | _ <;> rw [hp] at h
  case condition => cases h

end ChatFlow.Walk
