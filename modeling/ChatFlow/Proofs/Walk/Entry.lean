import ChatFlow.Proofs.Walk.Course

/-!
# The ways into a workflow

A workflow is run on a message, by the first trigger that fires, or by the clock, at every node
behind a trigger. Either way it is first settled where the walk departs from; then the walk is made.

* `Departure` — where a walk departs from, and what it takes along;
* `Entry.departure` — the departure of an entry; none where no trigger fires;
* `Entry.run_eq` — a run is its departure and the walk from there;
* `Entry.visits` — the visits of a run;
* `course_of_departure` — the course of its walk, and what the run comes to;
* `Loop.scene`, `Loop.world` — where the loop of two nodes is run as an example.
-/

namespace ChatFlow

/-- **The ways into a workflow.** -/
inductive Entry where
  /-- by a message -/
  | message
  /-- by the clock -/
  | clock
  deriving DecidableEq, Repr

/-- **Where a walk departs from.** -/
structure Departure where
  /-- the trigger that fired; none by the clock -/
  trigger : Option String
  /-- the captures it takes along -/
  captures : List Value
  /-- the depth of the first visits -/
  depth : Nat
  /-- the ids of the first visits -/
  starts : List String

namespace Departure

/-- The walk before its first visit. -/
def begun (d : Departure) (world : World) : Walk :=
  ⟨{ world with context := [("regex_groups", .list d.captures)] }, [], false⟩

/-- The first visits. -/
def pending (d : Departure) : List Pending := d.starts.map fun id => ⟨id, d.depth⟩

/-- The result of the walk when it is over. -/
def result (d : Departure) (walk : Walk) : WalkResult :=
  ⟨!d.starts.isEmpty, d.trigger, walk.visited, walk.world.context⟩

/-- All visits of the walk. -/
def walk (d : Departure) (scene : Scene) (w : Workflow) (limits : Walk.Limits) : Act Walk Unit :=
  Act.forEach d.starts (Walk.start w (Walk.performIn scene) limits d.depth)

end Departure

/-- The result where no trigger fires. -/
def WalkResult.unmatched : WalkResult := ⟨false, none, [], []⟩

/-- The first of some triggers that fires, with its captures. -/
def Trigger.first (text : String) : List Node → Act World (Option (Node × List String))
  | [] => return none
  | node :: rest =>
    match node.params with
    | .trigger p => do
      match ← fires p text with
      | none => first text rest
      | some captures => return some (node, captures)
    | _ => first text rest

/-- The limits of the walks in a scene. -/
def Scene.limits (scene : Scene) : Walk.Limits := Walk.Limits.ofSettings scene.settings.engine

namespace Entry

/-- **A run** by an entry. -/
def run : Entry → Scene → Workflow → Act World WalkResult
  | .message => Walk.run
  | .clock => Walk.runScheduled

/-- The scene of the walk: by the clock, there is no text. -/
def scene : Entry → Scene → Scene
  | .message, scene => scene
  | .clock, scene => { scene with occasion := { scene.occasion with text := "" } }

/-- **Where the walk of a run departs from**: from the first trigger that fires; by the clock, from
what the triggers lead to on the port `"output_1"`, trigger by trigger. -/
def departure : Entry → Scene → Workflow → Act World (Option Departure)
  | .message, scene, w => do
    match ← Trigger.first scene.occasion.text w.triggers with
    | none => return none
    | some (node, captures) => return some ⟨some node.id, captures.map .text, 0, [node.id]⟩
  | .clock, _, w => return some ⟨none, [], 1,
      w.triggers.flatMap fun t => (w.outgoing t.id "output_1").map Connection.target⟩

/-- The run from a departure. -/
def travel (e : Entry) (scene : Scene) (w : Workflow) (d : Departure) : Act World WalkResult := do
  let (_, walk) ← Walk.tour d.captures (d.walk (e.scene scene) w scene.limits)
  return d.result walk

theorem runFrom_eq (scene : Scene) (w : Workflow) (nodes : List Node) :
    Walk.runFrom scene w nodes = Trigger.first scene.occasion.text nodes >>= fun
      | none => return .unmatched
      | some (node, captures) =>
        travel .message scene w ⟨some node.id, captures.map .text, 0, [node.id]⟩ := by
  induction nodes with
  | nil => rfl
  | cons node rest ih =>
    -- both look at the same trigger, and only the recursion asks the rest
    unfold Walk.runFrom Trigger.first
    cases node.params with
    | trigger p =>
      dsimp only
      rw [Act.bind_assoc]
      congr 1
      funext fired
      cases fired with
      | none => exact ih
      | some captures =>
        simp only [Act.bind_pure_left, travel, Departure.walk, Act.forEach_singleton]
        rfl
    | _ => exact ih

/-- **A run is its departure and the walk from there.** -/
theorem run_eq (e : Entry) (scene : Scene) (w : Workflow) :
    e.run scene w = e.departure scene w >>= fun
      | none => return .unmatched
      | some d => e.travel scene w d := by
  cases e with
  | message =>
    rw [run, Walk.run, runFrom_eq, departure, Act.bind_assoc]
    congr 1
    funext found
    rcases found with _ | ⟨node, captures⟩ <;> rfl
  | clock => rfl

/-- **The visits of a run**, as many of them as were made. -/
def visits (e : Entry) (scene : Scene) (w : Workflow) (world : World) : List Visit :=
  match e.departure scene w world with
  | (.done (some d), world) =>
    Walk.visitsFrom w (Walk.performIn (e.scene scene)) scene.limits d.depth d.starts (d.begun world)
  | _ => []

variable {e : Entry} {scene : Scene} {w : Workflow} {world world' : World} {d : Departure}

theorem run_of_departure (h : e.departure scene w world = (.done (some d), world')) :
    e.run scene w world = e.travel scene w d world' := by
  rw [run_eq, Act.run_bind_done h]

theorem visits_of_departure (h : e.departure scene w world = (.done (some d), world')) :
    e.visits scene w world = Walk.visitsFrom w (Walk.performIn (e.scene scene)) scene.limits d.depth
      d.starts (d.begun world') := by
  rw [visits, h]

/-- A walk begun at a departure, read off the walk. -/
theorem run_tour {α : Type} (d : Departure) (act : Act Walk α) (world : World) :
    Walk.tour d.captures act world =
      let walked := act (d.begun world)
      (walked.1.map fun a => (a, walked.2), walked.2.world) := by
  unfold Walk.tour
  dsimp only
  rw [← Departure.begun]
  rcases act (d.begun world) with ⟨_ | _ | _, walk⟩ <;> rfl

/-- What a run comes to, read off its walk. -/
theorem run_travel (e : Entry) (scene : Scene) (w : Workflow) (d : Departure) (world : World) :
    e.travel scene w d world =
      let walked := d.walk (e.scene scene) w scene.limits (d.begun world)
      (walked.1.map fun _ => d.result walked.2, walked.2.world) := by
  rw [travel, Act.run_bind, run_tour]
  rcases d.walk (e.scene scene) w scene.limits (d.begun world) with ⟨_ | _ | _, walk⟩ <;> rfl

/-- **The course of a run.** -/
theorem course_of_departure (h : e.departure scene w world = (.done (some d), world')) :
    ∃ ending last, Walk.Course w (Walk.performIn (e.scene scene)) scene.limits d.pending
        (d.begun world') (e.visits scene w world) ending last ∧
      e.run scene w world = (ending.map fun _ => d.result last, last.world) := by
  let walked := d.walk (e.scene scene) w scene.limits (d.begun world')
  refine ⟨walked.1, walked.2, ?_, ?_⟩
  · rw [visits_of_departure h]
    exact Walk.course_of_forEach w _ _ _ _ _
  · rw [run_of_departure h, run_travel]

end Entry

/-! ## The loop in a scene -/

namespace Loop

/-- Somebody says `go` in a private chat, under limits. -/
def scene (platform : Platform) (limits : Walk.Limits) : Scene where
  occasion := ⟨⟨"10001", none, "private", none, "go", none, []⟩, "go"⟩
  surface := ⟨platform, none⟩
  settings := { Settings.default with
    engine := { Settings.default.engine with
      maxDepth := limits.depth
      maxVisits := limits.visits } }

/-- A world in which nothing was done yet. -/
def world : World where
  dice := ⟨[], 0⟩
  patterns := ⟨200, fun _ => none, []⟩
  network := ⟨[], 0, .plain⟩
  now := ⟨2024, 3, 15, 14, 30, 0, 0⟩

/-- A platform that takes every call. -/
def willing : Platform := ⟨fun _ _ => .returns .null⟩

/-- A platform that refuses every call. -/
def unwilling : Platform := ⟨fun _ _ => .fails "refused"⟩

end Loop

end ChatFlow
