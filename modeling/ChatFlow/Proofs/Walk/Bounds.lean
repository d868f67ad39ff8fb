import ChatFlow.Proofs.Walk.Conduct

/-!
# The bounds of a walk

A graph may have cycles and a walk may come to a node any number of times. It ends all the same, and
what it costs is known from the nodes it entered: each visit is one of the first visits or was put
on the stack by a node that was entered, once.

* `Course.visited_eq` — the nodes visited are those whose visits entered them;
* `Course.visited_le` — there are no more of them than the limit, for all first visits together;
* `Course.depth_le` — none lies deeper than the limit;
* `Course.length_eq` — how many visits there are in all;
* `run_within_limits` — a run on a platform that answers comes to its end within these bounds.
-/

namespace ChatFlow

/-- How many connections leave the node of a visit on the port that it was left on. -/
def Visit.fanOut (w : Workflow) (v : Visit) : Nat :=
  match v.fate with
  | .entered _ (some passed) _ => (w.outgoing v.id (Walk.portFor passed)).length
  | _ => 0

namespace Walk

/-- How many connections some visits follow in all. -/
def fanOuts (w : Workflow) : List Visit → Nat
  | [] => 0
  | v :: rest => v.fanOut w + fanOuts w rest

/-- **What bounds a walk** with its visits. -/
structure Bounded (w : Workflow) (limits : Limits) (starts : Nat) (vs : List Visit) (last : Walk) :
    Prop where
  /-- the nodes visited are those entered, in order -/
  entered : last.visited = (stays vs).map Visit.id
  /-- they are no more than the limit; none where it lies below zero -/
  few : (last.visited.length : Int) ≤ max limits.visits 0
  /-- each of them was entered no deeper than the limit -/
  shallow : ∀ v ∈ stays vs, (v.depth : Int) ≤ limits.depth
  /-- each visit is a first one, or came along a connection that leaves a node entered -/
  cheap : vs.length = starts + fanOuts w (stays vs)

namespace Course

variable {w : Workflow} {perform : Node → Act World Bool} {limits : Limits} {stack : List Pending}
  {walk last : Walk} {vs : List Visit} {ending : Outcome Unit}

theorem visited_eq (h : Course w perform limits stack walk vs ending last) :
    last.visited = walk.visited ++ (stays vs).map Visit.id := by
  induction h with
  | finished walk => exact (List.append_nil _).symm
  | unknown hn rest ih => exact ih
  | refused hn hr rest ih => rw [ih, visited_stopAt, stays_refused]
  | hung hn ha hw => exact (frame_attend hw).1
  | entered hn ha hw rest ih =>
    rw [ih, (frame_attend hw).1, stays_entered, List.map_cons, List.append_assoc,
      List.singleton_append]

/-- **The limit of visits holds for the whole walk.** The count is in the walk, not in a visit: it
goes on from one first visit to the next. -/
theorem visited_le (h : Course w perform limits stack walk vs ending last)
    (hv : (walk.visited.length : Int) ≤ max limits.visits 0) :
    (last.visited.length : Int) ≤ max limits.visits 0 := by
  -- a visit that is admitted finds the count below the limit, and adds one
  have hone : ∀ {id : String} {node : Node} {depth : Nat} {before after : Walk}
      {ended : Outcome Bool}, limits.Admits depth before →
      attend w perform id node before = (ended, after) →
      (after.visited.length : Int) ≤ max limits.visits 0 := by
    intro id node depth before after ended ha hw
    have hlt := ha.2
    rw [(frame_attend hw).1, List.length_append, List.length_singleton]
    omega
  induction h with
  | finished walk => exact hv
  | unknown hn rest ih => exact ih hv
  | refused hn hr rest ih => exact ih (by rwa [visited_stopAt])
  | hung hn ha hw => exact hone ha hw
  | entered hn ha hw rest ih => exact ih (hone ha hw)

theorem depth_le (h : Course w perform limits stack walk vs ending last) :
    ∀ v ∈ stays vs, (v.depth : Int) ≤ limits.depth := by
  induction h with
  | finished walk => exact fun v hv => by cases hv
  | unknown hn rest ih => exact ih
  | refused hn hr rest ih => exact ih
  | hung hn ha hw =>
    intro v hv
    obtain rfl := List.mem_singleton.mp hv
    exact ha.1
  | entered hn ha hw rest ih =>
    intro v hv
    rcases List.mem_cons.mp hv with rfl | hv
    · exact ha.1
    · exact ih v hv

theorem length_successors (w : Workflow) (p : Pending) (passed : Bool) :
    (successors w p passed).length = (w.outgoing p.id (portFor passed)).length := by
  rw [successors, targets, List.length_map, List.length_map]

/-- **How many visits a walk makes that comes to its end.** A visit that is refused puts nothing on
the stack, so nothing grows any more once a limit is reached. -/
theorem length_eq (h : Course w perform limits stack walk vs ending last) (hd : ending = .done ()) :
    vs.length = stack.length + fanOuts w (stays vs) := by
  induction h with
  | finished walk => rfl
  | unknown hn rest ih =>
    rw [List.length_cons, List.length_cons, stays_unknown, ih hd]
    omega
  | refused hn hr rest ih =>
    rw [List.length_cons, List.length_cons, stays_refused, ih hd]
    omega
  | hung hn ha hw => cases hd
  | @entered p stack walk after last vs ending node passed hn ha hw rest ih =>
    have hf : Visit.fanOut w ⟨p.id, p.depth, .entered walk.world (some passed) after.world⟩ =
        (w.outgoing p.id (portFor passed)).length := rfl
    rw [List.length_cons, List.length_cons, stays_entered, fanOuts, hf, ih hd, List.length_append,
      length_successors]
    omega

theorem ne_failed (h : Course w perform limits stack walk vs ending last) (f : Fault) :
    ending ≠ .failed f := by
  induction h with
  | finished walk => exact nofun
  | unknown hn rest ih => exact ih
  | refused hn hr rest ih => exact ih
  | hung hn ha hw => exact nofun
  | entered hn ha hw rest ih => exact ih

/-- **A walk comes to its end** where the work of its nodes does. -/
theorem ending_eq (h : Course w perform limits stack walk vs ending last) {p : Platform}
    (hp : ∀ node, (perform node).Keeps (.prompt p)) (ha : p.Answers) : ending = .done () := by
  cases ending with
  | done _ => rfl
  | failed f => exact absurd rfl (h.ne_failed f)
  | hung => exact absurd ha ((h.keeps (Conduct.frees_prompt p) hp).2 rfl)

/-- A walk that comes to its end does so within its bounds. -/
theorem bounded {d : Departure} {world : World}
    (h : Course w perform limits d.pending (d.begun world) vs (.done ()) last) :
    Bounded w limits d.starts.length vs last where
  entered := h.visited_eq
  few := h.visited_le (Int.le_max_right _ _)
  shallow := h.depth_le
  cheap := by
    rw [h.length_eq rfl, Departure.pending, List.length_map]

end Course

end Walk

namespace Entry

variable {e : Entry} {scene : Scene} {w : Workflow} {world world' : World} {d : Departure}

/-- **A run comes to its end** on a platform that answers, whatever the graph. -/
theorem run_ne_hung (ha : scene.surface.platform.Answers) : (e.run scene w world).1 ≠ .hung :=
  fun h => ((Conduct.frees_prompt scene.surface.platform).entryRun e w world).2 h ha

/-- The walk of a run comes to its end on a platform that answers. -/
theorem course_of_answers (ha : scene.surface.platform.Answers)
    (hd : e.departure scene w world = (.done (some d), world')) :
    ∃ last, Walk.Course w (Walk.performIn (e.scene scene)) scene.limits d.pending (d.begun world')
        (e.visits scene w world) (.done ()) last ∧
      e.run scene w world = (.done (d.result last), last.world) := by
  obtain ⟨ending, last, hc, hr⟩ := course_of_departure hd
  obtain rfl := hc.ending_eq (Conduct.Frees.performIn_entry (Conduct.frees_prompt _) e) ha
  exact ⟨last, hc, hr⟩

/-- **Runs keep within their limits**, whatever the graph and the limits: on a platform that answers
every call a run comes to its end, it visits no more nodes and none deeper than the limits say, and
its visits are the first ones and one for each connection it follows. -/
theorem run_within_limits (e : Entry) (scene : Scene) (w : Workflow) (world : World)
    (ha : scene.surface.platform.Answers) :
    (e.run scene w world).1 ≠ .hung ∧
      ∀ d world', e.departure scene w world = (.done (some d), world') →
        ∃ last, Walk.Course w (Walk.performIn (e.scene scene)) scene.limits d.pending
            (d.begun world') (e.visits scene w world) (.done ()) last ∧
          e.run scene w world = (.done (d.result last), last.world) ∧
          Walk.Bounded w scene.limits d.starts.length (e.visits scene w world) last := by
  refine ⟨run_ne_hung ha, fun d world' hd => ?_⟩
  obtain ⟨last, hc, hr⟩ := course_of_answers ha hd
  exact ⟨last, hc, hr, hc.bounded⟩

theorem run_within_limits_loop :
    let scene := Loop.scene Loop.willing ⟨64, 5⟩
    Loop.willing.Answers ∧ (message.run scene Loop.workflow Loop.world).1 ≠ .hung ∧
      (message.visits scene Loop.workflow Loop.world).length = 6 ∧
      ∃ last, Walk.Bounded Loop.workflow scene.limits 1
          (message.visits scene Loop.workflow Loop.world) last ∧
        last.visited = ["ask", "say", "ask", "say", "ask"] := by
  intro scene
  have h := run_within_limits message scene Loop.workflow Loop.world Loop.answers_willing
  obtain ⟨last, -, -, hb⟩ := h.2 ⟨some "ask", [], 0, ["ask"]⟩ Loop.world rfl
  exact ⟨Loop.answers_willing, h.1, by decide, last, hb, hb.entered.trans (by decide)⟩

end Entry

end ChatFlow
