import ChatFlow.Proofs.Engine.Nodes
import ChatFlow.Proofs.Walk.Entry

/-!
# Walks by a worklist

A walk can be made without recursion: a stack of visits that wait, and one step that takes the top
of it off. The step says for itself what the work of a node is, when a limit refuses it and on which
port it is left, and the stack ends when nothing waits; no level is counted.

* `Walk.expand` — one step, `Walk.drain` — up to so many steps;
* `Course.drain_eq` — the stack follows the course of the walk, one step for each visit;
* `run_eq_worklist` — a run of a loaded workflow is the run of its worklist;
* `literal_limit_differs` — a limit below zero is met at no number of visits, so the worklist counts
  it as zero.
-/

namespace ChatFlow

namespace Walk

/-! ## Work by kind -/

/-- **The work of a node**: a question is asked, and the answer decides on the port; anything else
acts and is left on the success port, also where it fails. -/
def execute (scene : Scene) (workflow : String) (node : Node) : Act Walk Bool :=
  match node.params with
  | .condition p => onWorld (Condition.evaluate p scene.occasion)
  | _ => do
    match ← onWorld (Node.run scene node).attempt with
    | .ok () => return true
    | .error _ =>
      onWorld (World.note (.nodeFailed workflow node.id node.kind))
      return true

theorem execute_question {scene : Scene} {node : Node} {p : ConditionParams} (workflow : String)
    (hp : node.params = .condition p) :
    execute scene workflow node = onWorld (Condition.evaluate p scene.occasion) := by
  rw [execute, hp]

theorem execute_other (scene : Scene) (workflow : String) {node : Node}
    (h : node.params.isCondition = false) :
    execute scene workflow node = onWorld (Node.run scene node).attempt >>= fun
      | .ok () => pure true
      | .error _ => onWorld (World.note (.nodeFailed workflow node.id node.kind)) >>= fun _ =>
        pure true := by
  unfold execute
  rcases hp : node.params with _ | _ | _ | _ | _ | _ | _ | _ | _ | _ | _ <;> rw [hp] at h
  case condition => cases h

/-- The work of a node that has the record of its kind. -/
theorem execute_eq_work (scene : Scene) (workflow : String) {node : Node} (hf : node.Fits) :
    execute scene workflow node = work workflow (performIn scene) node := by
  funext walk
  rw [run_work]
  cases hc : node.params.isCondition with
  | true =>
    obtain ⟨p, hp⟩ := exists_of_isCondition hc
    rw [execute_question _ hp, performIn_question hp, onWorld, Act.run_inside]
    rcases he : Condition.evaluate p scene.occasion walk.world with ⟨passed | f | _, world⟩
    · rfl
    · exact absurd (congrArg Prod.fst he) (evaluate_ne_failed p _ _ f)
    · rfl
  | false =>
    have hk : node.isCondition = false := hf.symm.trans hc
    rw [execute_other _ _ hc, performIn_other _ hc, hk, Act.run_bind, Act.run_bind, onWorld,
      Act.run_inside, Act.attempt]
    rcases Node.run scene node walk.world with ⟨_ | _ | _, world⟩ <;> rfl

/-! ## The machine -/

/-- The limits with a number of visits below zero counted as zero. -/
def Limits.capped (limits : Limits) : Limits := ⟨limits.depth, max limits.visits 0⟩

/-- **What waits behind a node**: the ends of its connections on the port `"output_2"`, if it asked a
question and the answer was no, and on `"output_1"` otherwise, in their order and one level deeper. -/
def behind (w : Workflow) (p : Pending) (passed : Bool) : List Pending :=
  (w.outgoing p.id (if passed then "output_1" else "output_2")).map fun c => ⟨c.target, p.depth + 1⟩

theorem behind_eq_successors (w : Workflow) (p : Pending) (passed : Bool) :
    behind w p passed = successors w p passed := by
  rw [successors, targets, List.map_map]
  rfl

/-- **One step**: the visit on top of the stack is dropped or made. Answers what comes on the stack
in its place. -/
def expand (w : Workflow) (execute : Node → Act Walk Bool) (limits : Limits) (p : Pending) :
    Act Walk (List Pending) :=
  match w.node? p.id with
  | none => return []
  | some node => do
    let walk ← Act.look
    if limits.depth < p.depth ∨ walk.visited.length = limits.visits then
      stopAt w.id p.id p.depth
      return []
    else
      enter p.id
      let passed ← execute node
      return behind w p passed

/-- **Up to so many steps.** Answers what still waits. -/
def drain (w : Workflow) (execute : Node → Act Walk Bool) (limits : Limits) :
    Nat → List Pending → Act Walk (List Pending)
  | _, [] => return []
  | 0, stack => return stack
  | n + 1, p :: stack => do
    let pushed ← expand w execute limits p
    drain w execute limits n (pushed ++ stack)

variable {w : Workflow} {perform : Node → Act World Bool} {execute : Node → Act Walk Bool}
  {limits : Limits} {walk : Walk} {p : Pending} {node : Node}

theorem drain_nil (n : Nat) : drain w execute limits n [] = pure [] := by
  cases n <;> rfl

theorem drain_succ (n : Nat) (stack : List Pending) :
    drain w execute limits (n + 1) (p :: stack) =
      expand w execute limits p >>= fun pushed => drain w execute limits n (pushed ++ stack) := rfl

theorem expand_unknown (hn : w.node? p.id = none) : expand w execute limits p = pure [] := by
  rw [expand, hn]

theorem expand_refused (hn : w.node? p.id = some node)
    (hr : limits.depth < p.depth ∨ walk.visited.length = limits.visits) :
    expand w execute limits p walk = (.done [], (stopAt w.id p.id p.depth walk).2) := by
  rw [expand, hn]
  dsimp only
  rw [Act.run_bind]
  simp only [Act.look, if_pos hr]
  rw [Act.run_bind_done (run_stopAt w.id)]
  rfl

theorem expand_entered (hn : w.node? p.id = some node)
    (hr : ¬ (limits.depth < p.depth ∨ walk.visited.length = limits.visits)) :
    expand w execute limits p walk =
      (execute node >>= fun passed => pure (behind w p passed))
        { walk with visited := walk.visited ++ [p.id] } := by
  rw [expand, hn]
  dsimp only
  rw [Act.run_bind]
  simp only [Act.look, if_neg hr]
  rfl

/-- Once nothing waits, more steps change nothing. -/
theorem drain_of_le {stack : List Pending} {last : Walk} {m n : Nat}
    (h : drain w execute limits m stack walk = (.done [], last)) (hmn : m ≤ n) :
    drain w execute limits n stack walk = (.done [], last) := by
  induction m generalizing n stack walk with
  | zero =>
    rcases stack with _ | ⟨p, stack⟩
    · rw [drain_nil] at h ⊢
      exact h
    · cases h
  | succ m ih =>
    rcases stack with _ | ⟨p, stack⟩
    · rw [drain_nil] at h ⊢
      exact h
    · obtain ⟨n, rfl⟩ := Nat.exists_eq_add_one.mpr (Nat.zero_lt_of_lt hmn)
      rw [drain_succ] at h ⊢
      rcases he : expand w execute limits p walk with ⟨pushed | f | _, after⟩
      · rw [Act.run_bind_done he] at h ⊢
        exact ih h (Nat.le_of_succ_le_succ hmn)
      · rw [Act.run_bind_failed he] at h
        cases h
      · rw [Act.run_bind_hung he] at h
        cases h

/-- With visits within the limits, the machine refuses what the walk refuses. -/
theorem capped_refuses_iff (hv : (walk.visited.length : Int) ≤ max limits.visits 0) (depth : Nat) :
    (limits.capped.depth < depth ∨ walk.visited.length = limits.capped.visits) ↔
      ¬ limits.Admits depth walk := by
  unfold Limits.capped Limits.Admits
  dsimp only
  omega

/-- **The stack follows the course of a walk**: one step for each visit, and nothing is left. -/
theorem Course.drain_eq {stack : List Pending} {vs : List Visit} {ending : Outcome Unit}
    {last : Walk} (h : Course w perform limits stack walk vs ending last)
    (hx : ∀ id node, w.node? id = some node → execute node = work w.id perform node)
    (hv : (walk.visited.length : Int) ≤ max limits.visits 0) {n : Nat} (hn : vs.length ≤ n) :
    drain w execute limits.capped n stack walk = (ending.map fun _ => [], last) := by
  -- each visit takes one step, so where a visit waits there is a step left
  induction h generalizing n with
  | finished walk =>
    rw [drain_nil]
    rfl
  | unknown hu rest ih =>
    obtain ⟨n, rfl⟩ := Nat.exists_eq_add_one.mpr (Nat.zero_lt_of_lt hn)
    rw [drain_succ, expand_unknown hu]
    exact ih hv (Nat.le_of_succ_le_succ hn)
  | refused hs hr rest ih =>
    obtain ⟨n, rfl⟩ := Nat.exists_eq_add_one.mpr (Nat.zero_lt_of_lt hn)
    rw [drain_succ, Act.run_bind_done (expand_refused hs ((capped_refuses_iff hv _).mpr hr))]
    exact ih (by rwa [visited_stopAt]) (Nat.le_of_succ_le_succ hn)
  | hung hs ha hw =>
    obtain ⟨n, rfl⟩ := Nat.exists_eq_add_one.mpr (Nat.zero_lt_of_lt hn)
    have hr := fun hr => (capped_refuses_iff hv _).mp hr ha
    rw [drain_succ, Act.run_bind_hung]
    · rfl
    · rw [expand_entered hs hr, hx _ _ hs]
      exact Act.run_bind_hung hw
  | @entered p stack walk after last vs ending node passed hs ha hw rest ih =>
    obtain ⟨n, rfl⟩ := Nat.exists_eq_add_one.mpr (Nat.zero_lt_of_lt hn)
    have hr := fun hr => (capped_refuses_iff hv _).mp hr ha
    have he : expand w execute limits.capped p walk = (.done (successors w p passed), after) := by
      rw [expand_entered hs hr, hx _ _ hs, ← behind_eq_successors]
      exact Act.run_bind_done hw
    rw [drain_succ, Act.run_bind_done he]
    refine ih ?_ (Nat.le_of_succ_le_succ hn)
    have := ha.2
    rw [(frame_attend hw).1, List.length_append, List.length_singleton]
    omega

end Walk

namespace Entry

/-- The walk from a departure by a worklist, under limits and for so many steps; no result where
visits still wait. -/
def drainFrom (e : Entry) (limits : Walk.Limits) (steps : Nat) (scene : Scene) (w : Workflow)
    (d : Departure) : Act World (Option WalkResult) := do
  let (waiting, walk) ← Walk.tour d.captures
    (Walk.drain w (Walk.execute (e.scene scene) w.id) limits steps d.pending)
  return if waiting.isEmpty then some (d.result walk) else none

/-- **A run by its worklist.** -/
def worklist (e : Entry) (limits : Walk.Limits) (steps : Nat) (scene : Scene) (w : Workflow) :
    Act World (Option WalkResult) := do
  match ← e.departure scene w with
  | none => return some .unmatched
  | some d => e.drainFrom limits steps scene w d

/-- What a worklist comes to, read off its walk. -/
theorem run_drainFrom (e : Entry) (limits : Walk.Limits) (steps : Nat) (scene : Scene)
    (w : Workflow) (d : Departure) (world : World) :
    e.drainFrom limits steps scene w d world =
      let walked := Walk.drain w (Walk.execute (e.scene scene) w.id) limits steps d.pending
        (d.begun world)
      (walked.1.map fun waiting => if waiting.isEmpty then some (d.result walked.2) else none,
        walked.2.world) := by
  rw [drainFrom, Act.run_bind, run_tour]
  rcases Walk.drain w (Walk.execute (e.scene scene) w.id) limits steps d.pending (d.begun world)
    with ⟨_ | _ | _, walk⟩ <;> rfl

section

variable {e : Entry} {limits : Walk.Limits} {scene : Scene} {w : Workflow} {d : Departure}
  {world world' : World} {r : WalkResult} {m n : Nat}

theorem drainFrom_of_le (h : e.drainFrom limits m scene w d world = (.done (some r), world'))
    (hmn : m ≤ n) : e.drainFrom limits n scene w d world = (.done (some r), world') := by
  rw [run_drainFrom] at h ⊢
  rcases hd : Walk.drain w (Walk.execute (e.scene scene) w.id) limits m d.pending (d.begun world)
    with ⟨(_ | ⟨p, waiting⟩) | f | _, last⟩ <;> rw [hd] at h
  · rw [Walk.drain_of_le hd hmn]
    exact h
  all_goals cases h

/-- **A worklist that gets through** does so in the same way with more steps. -/
theorem worklist_of_le (h : e.worklist limits m scene w world = (.done (some r), world'))
    (hmn : m ≤ n) : e.worklist limits n scene w world = (.done (some r), world') := by
  rw [worklist] at h ⊢
  rcases hd : e.departure scene w world with ⟨(_ | d) | f | _, after⟩
  · rw [Act.run_bind_done hd] at h ⊢
    exact h
  · rw [Act.run_bind_done hd] at h ⊢
    exact drainFrom_of_le h hmn
  · rw [Act.run_bind_failed hd] at h
    cases h
  · rw [Act.run_bind_hung hd] at h
    cases h

end

/-- **A run of a loaded workflow is the run of its worklist**: the same ending, the same result and
the same world, once the worklist has a step for each visit. -/
theorem run_eq_worklist {v : Value} {w : Workflow} (hw : Workflow.load v = .ok w) (e : Entry)
    (scene : Scene) (world : World) (steps : Nat)
    (hs : (e.visits scene w world).length ≤ steps) :
    e.worklist scene.limits.capped steps scene w world =
      (e.run scene w >>= fun r => pure (some r)) world := by
  rw [Act.run_bind_return, worklist]
  rcases hd : e.departure scene w world with ⟨(_ | d) | f | _, world'⟩
  case done.none => rw [Act.run_bind_done hd, run_eq, Act.run_bind_done hd]; rfl
  case failed => rw [Act.run_bind_failed hd, run_eq, Act.run_bind_failed hd]; rfl
  case hung => rw [Act.run_bind_hung hd, run_eq, Act.run_bind_hung hd]; rfl
  case done.some =>
    have hx : ∀ id node, w.node? id = some node →
        Walk.execute (e.scene scene) w.id node =
          Walk.work w.id (Walk.performIn (e.scene scene)) node := fun id node hn =>
      Walk.execute_eq_work _ _ (Workflow.fits_of_load hw node (Workflow.mem_of_node? hw hn).1)
    obtain ⟨ending, last, hc, hr⟩ := course_of_departure hd
    have hstack := hc.drain_eq hx (Int.le_max_right _ _) hs
    rw [hr, Act.run_bind_done hd]
    change e.drainFrom _ _ _ _ d world' = _
    rw [run_drainFrom, hstack]
    cases ending <;> rfl

theorem run_eq_worklist_loop :
    let scene := Loop.scene Loop.unwilling ⟨64, 5⟩
    (Entry.message.visits scene Loop.workflow Loop.world).length ≤ 6 ∧
      Entry.message.worklist scene.limits.capped 6 scene Loop.workflow Loop.world =
        (Entry.message.run scene Loop.workflow >>= fun r => pure (some r)) Loop.world :=
  ⟨by decide, run_eq_worklist Loop.load_document .message _ _ 6 (by decide)⟩

/-- **A limit below zero is no number of visits.** A worklist that waits for this very number to be
reached goes on where a run does nothing, however many steps it is given. -/
theorem literal_limit_differs :
    let scene := Loop.scene Loop.willing ⟨1, -1⟩
    Workflow.load Loop.document = .ok Loop.workflow ∧
      ¬ ∃ enough, ∀ steps ≥ enough,
        Entry.message.worklist scene.limits steps scene Loop.workflow Loop.world =
          (Entry.message.run scene Loop.workflow >>= fun r => pure (some r)) Loop.world := by
  intro scene
  refine ⟨Loop.load_document, fun ⟨enough, h⟩ => ?_⟩
  -- with nothing to stop it but the depth, the worklist is through after three steps
  have hthree : ∃ r world', Entry.message.worklist scene.limits 3 scene Loop.workflow Loop.world =
      (.done (some r), world') ∧ world'.calls.length = 1 := ⟨_, _, rfl, rfl⟩
  obtain ⟨r, world', hr, hone⟩ := hthree
  have hrun := h (enough + 3) (Nat.le_add_right _ _)
  rw [worklist_of_le hr (Nat.le_add_left 3 enough)] at hrun
  have hnone : world'.calls.length = 0 := congrArg (fun ended => ended.2.calls.length) hrun
  omega

end Entry

end ChatFlow
