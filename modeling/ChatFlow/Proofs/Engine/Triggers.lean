import ChatFlow.Proofs.Walk.Entry
import ChatFlow.Proofs.Workflow.Triggers

/-!
# Triggers that fire

Which triggers fire on which texts, as far as the clock is concerned: the texts of the clock fire
every trigger, and every other text fires none of the clock's.

* `Trigger.notMem_clockKinds_of_fires` — **a text that is not the clock's fires no trigger of the
  clock**;
* `Trigger.fires_of_first` — the first trigger that fires is one of those asked, and fires;
* `Entry.exists_trigger_of_departure` — so is the trigger from which the walk of a message departs.
-/

namespace ChatFlow

namespace Trigger

/-- **A text that is not the clock's fires no trigger of the clock.** -/
theorem notMem_clockKinds_of_fires {p : TriggerParams} {text : String}
    (htext : text ∉ sentinels) {world after : World} {captures : List String}
    (h : fires p text world = (.done (some captures), after)) : p.triggerType ∉ clockKinds := by
  intro hclock
  have hnone : fires p text = pure none := by
    rw [fires, if_neg (by simpa using htext), if_pos (by simp [hclock])]
  rw [hnone] at h
  cases h

/-- **The first trigger that fires** is one of those asked. -/
theorem fires_of_first {text : String} {nodes : List Node} {world after : World} {node : Node}
    {captures : List String} (h : first text nodes world = (.done (some (node, captures)), after)) :
    node ∈ nodes ∧ ∃ p before, node.params = .trigger p ∧
      fires p text before = (.done (some captures), after) := by
  induction nodes generalizing world with
  | nil => cases h
  | cons n rest ih =>
    have hrest {world : World}
        (h : first text rest world = (.done (some (node, captures)), after)) :
        node ∈ n :: rest ∧ ∃ p before, node.params = .trigger p ∧
          fires p text before = (.done (some captures), after) := by
      obtain ⟨hmem, hfires⟩ := ih h
      exact ⟨List.mem_cons_of_mem n hmem, hfires⟩
    rw [first] at h
    cases hparams : n.params with
    | trigger p =>
      simp only [hparams] at h
      rcases hrun : fires p text world with ⟨(_ | fired) | f | _, next⟩
      · rw [Act.run_bind_done hrun] at h
        exact hrest h
      · rw [Act.run_bind_done hrun] at h
        obtain ⟨hfound, rfl⟩ := Prod.mk.inj h
        obtain ⟨rfl, rfl⟩ := Prod.mk.inj (Option.some.inj (Outcome.done.inj hfound))
        exact ⟨List.mem_cons_self, p, world, hparams, hrun⟩
      · rw [Act.run_bind_failed hrun] at h
        cases h
      · rw [Act.run_bind_hung hrun] at h
        cases h
    | _ =>
      simp only [hparams] at h
      exact hrest h

end Trigger

/-- **The walk of a message departs from a trigger** of the workflow that fires for the text. -/
theorem Entry.exists_trigger_of_departure {scene : Scene} {w : Workflow} {world after : World}
    {d : Departure} (h : Entry.message.departure scene w world = (.done (some d), after)) :
    ∃ n ∈ w.nodes, d.trigger = some n.id ∧ ∃ p before captures, n.params = .trigger p ∧
      Trigger.fires p scene.occasion.text before = (.done (some captures), after) := by
  rw [departure] at h
  rcases hfirst : Trigger.first scene.occasion.text w.triggers world with
    ⟨(_ | ⟨n, captures⟩) | f | _, next⟩
  · rw [Act.run_bind_done hfirst] at h
    cases h
  · rw [Act.run_bind_done hfirst] at h
    obtain ⟨hfound, rfl⟩ := Prod.mk.inj h
    obtain rfl := Option.some.inj (Outcome.done.inj hfound)
    obtain ⟨hmem, p, before, hparams, hfires⟩ := Trigger.fires_of_first hfirst
    exact ⟨n, (List.mem_filter.mp hmem).1, rfl, p, before, captures, hparams, hfires⟩
  · rw [Act.run_bind_failed hfirst] at h
    cases h
  · rw [Act.run_bind_hung hfirst] at h
    cases h

end ChatFlow
