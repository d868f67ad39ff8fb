import ChatFlow.Proofs.Walk.Bounds

/-!
# Failures in a walk

A node that fails is noted, and the walk goes on. So a walk comes to a result whatever fails in it,
and in a graph without questions nothing but the graph, the first visits and the limits decides
where it goes.

* `start_of_failed` — the walk goes on from what the failed node left, on the success port;
* `Steady` — every node is left on the success port; so it is where no node asks;
* `Course.visited_congr` — two walks of one graph whose nodes are steady visit the same nodes;
* `isolated_of_load` — failures are isolated in every loaded workflow.
-/

namespace ChatFlow

/-- A workflow in which no node asks. -/
def Workflow.Unquestioning (w : Workflow) : Prop := ∀ n ∈ w.nodes, n.isCondition = false

/-- **Two workflows of one graph**: the same ids are known, and the same ids lie behind each node on
the success port. What the nodes are is left open. -/
def Workflow.SameGraph (w w' : Workflow) : Prop :=
  (∀ id, (w.node? id).isSome = (w'.node? id).isSome) ∧
    ∀ id, Walk.targets w id true = Walk.targets w' id true

theorem Workflow.SameGraph.none_iff {w w' : Workflow} (hg : w.SameGraph w') (id : String) :
    w.node? id = none ↔ w'.node? id = none := by
  have h := hg.1 id
  cases hn : w.node? id <;> cases hn' : w'.node? id <;> simp [hn, hn'] at h ⊢

namespace Walk

variable {w w' : Workflow} {perform perform' : Node → Act World Bool} {limits : Limits}
  {stack : List Pending} {walk walk' last last' : Walk} {vs vs' : List Visit}

/-! ## A node that fails -/

/-- **The walk goes on behind a node that failed**: in the world that the node left, with a note of
it, along the connections of the success port. -/
theorem start_of_failed {id : String} {node : Node} {depth : Nat} {f : Fault} {world : World}
    (hn : w.node? id = some node) (hc : node.isCondition = false) (ha : limits.Admits depth walk)
    (hf : perform node walk.world = (.failed f, world)) :
    start w perform limits depth id walk =
      Act.forEach (targets w id true) (start w perform limits (depth + 1))
        ⟨{ world with log := world.log ++ [.nodeFailed w.id node.id node.kind] },
          walk.visited ++ [id], walk.limited⟩ := by
  have hw : attend w perform id node walk = (.done true,
      ⟨{ world with log := world.log ++ [.nodeFailed w.id node.id node.kind] },
        walk.visited ++ [id], walk.limited⟩) := by
    rw [run_attend, run_work]
    dsimp only
    rw [hf, hc]
    rfl
  rw [visit_admitted hn ha, Act.run_bind_done hw]

/-! ## Steady nodes -/

/-- **Steady nodes**: each is left on the success port, whatever its world. -/
def Steady (w : Workflow) (perform : Node → Act World Bool) : Prop :=
  ∀ ⦃id node walk after passed⦄, w.node? id = some node →
    attend w perform id node walk = (.done passed, after) → passed = true

/-- A node that asks nothing is left on the success port. -/
theorem steady_of_load {v : Value} (hw : Workflow.load v = .ok w) (hu : w.Unquestioning)
    (scene : Scene) : Steady w (performIn scene) := by
  intro id node walk after passed hn ha
  have hm := (Workflow.mem_of_node? hw hn).1
  have hk := hu node hm
  have hp : node.params.isCondition = false := (Workflow.fits_of_load hw node hm).trans hk
  rw [run_attend, run_work, performIn_other scene hp, Act.run_bind, hk] at ha
  dsimp only at ha
  rcases hr : Node.run scene node walk.world with ⟨_ | _ | _, world⟩ <;> rw [hr] at ha
  · exact (Outcome.done.inj (Prod.mk.inj ha).1).symm
  · exact (Outcome.done.inj (Prod.mk.inj ha).1).symm
  · cases (Prod.mk.inj ha).1

theorem successors_congr (hg : w.SameGraph w') (p : Pending) :
    successors w p true = successors w' p true := by
  rw [successors, successors, hg.2 p.id]

theorem admits_congr (hv : walk.visited = walk'.visited) (depth : Nat) :
    limits.Admits depth walk ↔ limits.Admits depth walk' := by
  unfold Limits.Admits
  rw [hv]

/-- **Two walks of one graph** with steady nodes visit the same nodes, whatever becomes of the
worlds. The two courses are taken apart together: what waits is the same at every step. -/
theorem Course.visited_congr {ending ending' : Outcome Unit} (hg : w.SameGraph w')
    (hs : Steady w perform) (hs' : Steady w' perform')
    (h : Course w perform limits stack walk vs ending last) (hd : ending = .done ())
    (h' : Course w' perform' limits stack walk' vs' ending' last') (hd' : ending' = .done ())
    (hv : walk.visited = walk'.visited) : last.visited = last'.visited := by
  induction h generalizing walk' vs' ending' last' with
  | finished walk =>
    cases h'
    exact hv
  | unknown hn rest ih =>
    cases h' with
    | unknown hn' rest' => exact ih hd rest' hd' hv
    | refused hn' | hung hn' | entered hn' => simp [(hg.none_iff _).mp hn] at hn'
  | refused hn hr rest ih =>
    cases h' with
    | unknown hn' => simp [(hg.none_iff _).mpr hn'] at hn
    | refused hn' hr' rest' =>
      exact ih hd rest' hd' (by rw [visited_stopAt, visited_stopAt, hv])
    | hung hn' ha' | entered hn' ha' => exact absurd ((admits_congr hv _).mpr ha') hr
  | hung hn ha hw => cases hd
  | entered hn ha hw rest ih =>
    cases h' with
    | unknown hn' => simp [(hg.none_iff _).mpr hn'] at hn
    | refused hn' hr' => exact absurd ((admits_congr hv _).mp ha) hr'
    | hung hn' ha' hw' => cases hd'
    | entered hn' ha' hw' rest' =>
      -- both nodes are left on the success port, and the same ids lie behind it
      obtain rfl := hs hn hw
      obtain rfl := hs' hn' hw'
      rw [← successors_congr hg] at rest'
      exact ih hd rest' hd' (by rw [(frame_attend hw).1, (frame_attend hw').1, hv])

end Walk

/-! ## Runs -/

namespace Entry

variable {e e' : Entry} {scene scene' : Scene} {w w' : Workflow} {world world' u u' : World}
  {d d' : Departure} {r r' : WalkResult}

/-- By the clock, a walk always departs. -/
theorem exists_departure_clock (scene : Scene) (w : Workflow) (world : World) :
    ∃ d, clock.departure scene w world = (.done (some d), world) := ⟨_, rfl⟩

/-- **Runs of one graph without questions** visit the same nodes. -/
theorem visited_congr {v v' : Value} (hw : Workflow.load v = .ok w) (hu : w.Unquestioning)
    (hw' : Workflow.load v' = .ok w') (hu' : w'.Unquestioning) (hg : w.SameGraph w')
    (ha : scene.surface.platform.Answers) (ha' : scene'.surface.platform.Answers)
    (hl : scene.limits = scene'.limits) (hd : e.departure scene w world = (.done (some d), u))
    (hd' : e'.departure scene' w' world' = (.done (some d'), u')) (hs : d.starts = d'.starts)
    (hdepth : d.depth = d'.depth) (hr : (e.run scene w world).1 = .done r)
    (hr' : (e'.run scene' w' world').1 = .done r') : r.visited = r'.visited := by
  obtain ⟨last, hc, hrun⟩ := course_of_answers ha hd
  obtain ⟨last', hc', hrun'⟩ := course_of_answers ha' hd'
  rw [hrun] at hr
  rw [hrun'] at hr'
  obtain rfl := Outcome.done.inj hr
  obtain rfl := Outcome.done.inj hr'
  have hp : d.pending = d'.pending := by
    rw [Departure.pending, Departure.pending, hs, hdepth]
  rw [← hl, ← hp] at hc'
  have hsteady := Walk.steady_of_load hw hu (e.scene scene)
  have hsteady' := Walk.steady_of_load hw' hu' (e'.scene scene')
  exact hc.visited_congr hg hsteady hsteady' rfl hc' rfl rfl

end Entry

/-- **Failures are isolated in a workflow.** -/
structure Workflow.Isolated (w : Workflow) : Prop where
  /-- a walk that departs comes to a result on every platform that answers, be it with refusals -/
  returns (e : Entry) (scene : Scene) (world u : World) (d : Departure) :
    scene.surface.platform.Answers → e.departure scene w world = (.done (some d), u) →
      ∃ last, e.run scene w world = (.done (d.result last), last.world)
  /-- by the clock, a walk always departs -/
  departs (scene : Scene) (world : World) :
    ∃ d, Entry.clock.departure scene w world = (.done (some d), world)
  /-- the walk goes on behind a node that failed, in the world that the node left -/
  continues (scene : Scene) (limits : Walk.Limits) (depth : Nat) (id : String) (node : Node)
    (walk : Walk) (f : Fault) (world : World) :
    w.node? id = some node → node.isCondition = false → limits.Admits depth walk →
      Walk.performIn scene node walk.world = (.failed f, world) →
        Walk.start w (Walk.performIn scene) limits depth id walk =
          Act.forEach (Walk.targets w id true)
            (Walk.start w (Walk.performIn scene) limits (depth + 1))
            ⟨{ world with log := world.log ++ [.nodeFailed w.id node.id node.kind] },
              walk.visited ++ [id], walk.limited⟩
  /-- where no node asks, two runs from the same first visits under the same limits visit the same
  nodes, whatever their messages, their worlds and their platforms; and any other workflow of the
  same graph does as well -/
  steady (v' : Value) (w' : Workflow) (e e' : Entry) (scene scene' : Scene)
    (world world' u u' : World) (d d' : Departure) (r r' : WalkResult) :
    w.Unquestioning → Workflow.load v' = .ok w' → w'.Unquestioning → w.SameGraph w' →
      scene.surface.platform.Answers → scene'.surface.platform.Answers →
      scene.limits = scene'.limits → e.departure scene w world = (.done (some d), u) →
      e'.departure scene' w' world' = (.done (some d'), u') → d.starts = d'.starts →
      d.depth = d'.depth → (e.run scene w world).1 = .done r →
      (e'.run scene' w' world').1 = .done r' → r.visited = r'.visited

namespace Entry

/-- **Failures are isolated in every loaded workflow.** -/
theorem isolated_of_load {v : Value} {w : Workflow} (hw : Workflow.load v = .ok w) :
    w.Isolated where
  returns e scene world u d ha hd := by
    obtain ⟨last, -, hr⟩ := course_of_answers ha hd
    exact ⟨last, hr⟩
  departs scene world := exists_departure_clock scene w world
  continues scene limits depth id node walk f world hn hc ha hf :=
    Walk.start_of_failed hn hc ha hf
  steady v' w' e e' scene scene' world world' u u' d d' r r' hu hw' hu' hg ha ha' hl hd hd' hs
      hdepth hr hr' :=
    visited_congr hw hu hw' hu' hg ha ha' hl hd hd' hs hdepth hr hr'

theorem isolated_of_load_loop :
    let scene := Loop.scene Loop.unwilling ⟨64, 5⟩
    let scene' := Loop.scene Loop.willing ⟨64, 5⟩
    Workflow.load Loop.document = .ok Loop.workflow ∧
      ∃ r r', (message.run scene Loop.workflow Loop.world).1 = .done r ∧
        (message.run scene' Loop.workflow Loop.world).1 = .done r' ∧ r.visited = r'.visited := by
  intro scene scene'
  have hu : Loop.workflow.Unquestioning := by
    change ∀ n ∈ [Loop.ask, Loop.say], n.isCondition = false
    decide
  have h := isolated_of_load Loop.load_document
  let d : Departure := ⟨some "ask", [], 0, ["ask"]⟩
  obtain ⟨last, hr⟩ := h.returns message scene Loop.world Loop.world d Loop.answers_unwilling rfl
  obtain ⟨last', hr'⟩ := h.returns message scene' Loop.world Loop.world d Loop.answers_willing rfl
  refine ⟨Loop.load_document, d.result last, d.result last', by rw [hr], by rw [hr'], ?_⟩
  exact h.steady Loop.document Loop.workflow message message scene scene' Loop.world Loop.world
    Loop.world Loop.world d d _ _ hu Loop.load_document hu ⟨fun _ => rfl, fun _ => rfl⟩
    Loop.answers_unwilling Loop.answers_willing rfl rfl rfl rfl rfl (by rw [hr]) (by rw [hr'])

end Entry

end ChatFlow
