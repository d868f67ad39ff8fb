import ChatFlow.Engine.Action
import ChatFlow.Engine.Condition
import ChatFlow.Engine.Trigger

/-!
# Walks

A workflow runs by a walk of its graph from a node: the node does its work, then the walk goes on
along the connections that leave it, in declared order and to the end of each before the next. A
condition is left on the success port when it holds and on the failure port when not; any other
node is left on the success port, whether it failed or not.

* A graph may have cycles; a walk ends because it goes no deeper than one limit and visits no more
  nodes than another. The first time a limit stops it is noted.
* `Walk.run` — the first trigger that fires starts a walk with its captures;
* `Walk.runScheduled` — every node behind a trigger is visited, whatever the triggers say.
-/

namespace ChatFlow

/-- **A walk under way**: the world, and where the walk has been. -/
structure Walk where
  /-- the world -/
  world : World
  /-- the nodes visited, oldest first -/
  visited : List String
  /-- whether a limit has stopped it somewhere -/
  limited : Bool

/-- How a walk ended. -/
structure WalkResult where
  /-- whether there was anything to walk -/
  matched : Bool
  /-- the trigger that fired -/
  trigger : Option String
  /-- the nodes visited, oldest first -/
  visited : List String
  /-- the variables at the end -/
  context : Table Value

namespace Walk

/-- An act of the world, during a walk. -/
def onWorld {α : Type} (act : Act World α) : Act Walk α :=
  act.inside Walk.world fun w walk => { walk with world := w }

/-- The limits of a walk. -/
structure Limits where
  /-- how deep it may go -/
  depth : Int
  /-- how many nodes it may visit -/
  visits : Int

/-- The limits that settings lay down. -/
def Limits.ofSettings (s : EngineSettings) : Limits := ⟨s.maxDepth, s.maxVisits⟩

/-- A visit that a limit stops, noted the first time. -/
def stopAt (workflow node : String) (depth : Nat) : Act Walk Unit := fun walk =>
  if walk.limited then (.done (), walk)
  else
    let note := Note.walkBounded workflow node depth walk.visited.length
    (.done (), { walk with
      world := { walk.world with log := walk.world.log ++ [note] }, limited := true })

/-- A node entered in the list of those visited. -/
def enter (id : String) : Act Walk Unit :=
  Act.change fun walk => { walk with visited := walk.visited ++ [id] }

/-- **The work of a node** and whether it is left on the success port. A failure is noted. -/
def work (workflow : String) (perform : Node → Act World Bool) (node : Node) : Act Walk Bool := do
  match ← onWorld (perform node).attempt with
  | .ok passed => return passed
  | .error _ =>
    onWorld (World.note (.nodeFailed workflow node.id node.kind))
    return !node.isCondition

/-- The port of an outcome. -/
def portFor (passed : Bool) : String := if passed then successPort else failurePort

/-- **A visit**, and the visits it leads to. `left` counts the levels that may still be entered,
this one included. -/
def visit (w : Workflow) (perform : Node → Act World Bool) (maxVisits : Int) :
    Nat → Nat → String → Act Walk Unit
  | left, depth, id =>
    match w.node? id with
    | none => return ()
    | some node =>
      match left with
      | 0 => stopAt w.id id depth
      | left + 1 => do
        let walk ← Act.look
        if walk.visited.length < maxVisits then
          enter id
          let passed ← work w.id perform node
          Act.forEach (w.outgoing id (portFor passed)) fun c =>
            visit w perform maxVisits left (depth + 1) c.target
        else stopAt w.id id depth

/-- How many levels may be entered from a depth on. -/
def levels (limits : Limits) (depth : Nat) : Nat := (limits.depth + 1 - depth).toNat

/-- A visit that starts a walk at a depth. -/
def start (w : Workflow) (perform : Node → Act World Bool) (limits : Limits) (depth : Nat)
    (id : String) : Act Walk Unit :=
  visit w perform limits.visits (levels limits depth) depth id

/-- **What a node does in a scene**, and whether it is left on the success port. -/
def performIn (scene : Scene) (node : Node) : Act World Bool :=
  match node.params with
  | .condition p => Condition.evaluate p scene.occasion
  | _ => do
    Node.run scene node
    return true

/-- A walk begun on a world with captures as its only variable, and what came of it. -/
def tour {α : Type} (captures : List Value) (act : Act Walk α) : Act World (α × Walk) := fun w =>
  let begun : Walk := ⟨{ w with context := [("regex_groups", .list captures)] }, [], false⟩
  match act begun with
  | (.done a, walk) => (.done (a, walk), walk.world)
  | (.failed f, walk) => (.failed f, walk.world)
  | (.hung, walk) => (.hung, walk.world)

/-- The walk from the first of some triggers that fires. -/
def runFrom (scene : Scene) (w : Workflow) : List Node → Act World WalkResult
  | [] => return ⟨false, none, [], []⟩
  | node :: rest =>
    match node.params with
    | .trigger p => do
      match ← Trigger.fires p scene.occasion.text with
      | none => runFrom scene w rest
      | some captures =>
        let limits := Limits.ofSettings scene.settings.engine
        let (_, walk) ← tour (captures.map .text) (start w (performIn scene) limits 0 node.id)
        return ⟨true, some node.id, walk.visited, walk.world.context⟩
    | _ => runFrom scene w rest

/-- **A workflow run on a message.** -/
def run (scene : Scene) (w : Workflow) : Act World WalkResult := runFrom scene w w.triggers

/-- The nodes behind the triggers of a workflow, trigger by trigger. -/
def behindTriggers (w : Workflow) : List String :=
  w.triggers.flatMap fun t => (w.outgoing t.id successPort).map Connection.target

/-- **A workflow run by the clock.** All visits belong to one walk with empty text. -/
def runScheduled (scene : Scene) (w : Workflow) : Act World WalkResult := do
  let scene := { scene with occasion := { scene.occasion with text := "" } }
  let limits := Limits.ofSettings scene.settings.engine
  let nodes := behindTriggers w
  let (_, walk) ← tour [] (Act.forEach nodes fun id => start w (performIn scene) limits 1 id)
  return ⟨!nodes.isEmpty, none, walk.visited, walk.world.context⟩

end Walk

end ChatFlow
