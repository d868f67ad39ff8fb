import ChatFlow.Value.Plain
import ChatFlow.Workflow.Params

/-!
# Workflow documents

A workflow is a graph of nodes joined by connections that leave a node on a port. It is read once
from its document; what runs it afterwards never looks at raw data.

* `Workflow.load` — a document read and checked; two nodes of one id are refused;
* `Workflow.node?`, `Workflow.outgoing` — the graph, answered from an index built while loading;
* `Workflow.toValue`, `Workflow.document` — the workflow as a document again.
-/

namespace ChatFlow

open Schema

/-! ## Ports -/

/-- Where a node that did its work is left. -/
def successPort : String := "output_1"

/-- Where a condition that does not hold is left. -/
def failurePort : String := "output_2"

/-- The port of a spelling. -/
def portOf : String → String
  | "output" => successPort
  | "output-1" => successPort
  | "output-2" => failurePort
  | other => other

/-! ## Nodes and connections -/

/-- **One unit of behaviour.** -/
structure Node where
  /-- its name within the workflow -/
  id : String
  /-- the kind of node -/
  kind : String
  /-- place on the drawing, across -/
  x : Double
  /-- place on the drawing, down -/
  y : Double
  /-- the parameters as they were authored -/
  data : Table Value
  /-- the parameters as they are used -/
  params : Params
  deriving Repr

/-- **A way from one node to another.** -/
structure Connection where
  /-- the node it leaves -/
  source : String
  /-- the node it leads to -/
  target : String
  /-- the port it leaves on -/
  port : String
  deriving DecidableEq, Repr

namespace Node

/-- Zero, where a node is drawn by default. -/
def origin : Double := Double.ofInt 0

/-- The fields of a node, its parameters not yet read. -/
def readFields (data : Table Value) : Checked Node :=
  finish do
    let id ← required data "id" text ""
    let kind ← required data "type" text ""
    let x ← optional data "x" real origin
    let y ← optional data "y" real origin
    let entries ← optional data "data" map []
    let _ ← optional data "params" record []
    return ⟨id, kind, x, y, entries, .inert []⟩

/-- **A node read from a document.** -/
def read (v : Value) : Checked Node := do
  let node ← readFields (← record v)
  let params ← Params.read node.kind node.data
  return { node with params }

/-- The node as a document. -/
def toValue (n : Node) : Value :=
  .object [("id", .text n.id), ("type", .text n.kind), ("x", .double n.x), ("y", .double n.y),
    ("data", .object n.data)]

/-- The node with its authored parameters in plain form. -/
def plain (n : Node) : Node := { n with data := Value.plainFields n.data }

/-- Whether it fires the workflow. -/
def isTrigger (n : Node) : Bool := n.kind = "trigger"

/-- Whether it is a question. -/
def isCondition (n : Node) : Bool := n.kind = "condition"

end Node

namespace Connection

/-- The first entry that is present, or else a default. -/
def firstPresent (data : Table Value) (keys : List String) (default : String) : Value :=
  ((keys.filterMap data.get?).find? Value.present).getD (.text default)

/-- A fault of a rule, as a defect. -/
def broken (f : Fault) : List Defect := [⟨[], "value_error", some ("Value error, " ++ f.message)⟩]

/-- **A connection read from a document**, under the names of either editor. -/
def read (v : Value) : Checked Connection := do
  let data ← record v
  let port ← ((firstPresent data ["from_output", "port"] successPort).show?).mapError broken
  finish do
    let source ← take "" (inside "from_node" (text (firstPresent data ["from_node", "from"] "")))
    let target ← take "" (inside "to_node" (text (firstPresent data ["to_node", "to"] "")))
    return ⟨source, target, portOf port⟩

/-- The connection as a document. -/
def toValue (c : Connection) : Value :=
  .object [("from_node", .text c.source), ("to_node", .text c.target),
    ("from_output", .text c.port)]

end Connection

/-! ## The graph -/

/-- **Nodes by id, and connections by the node and port they leave.** -/
structure GraphIndex where
  /-- the node of an id -/
  nodes : Table Node
  /-- the connections of a node and port, in declared order -/
  leaving : Table (Table (List Connection))
  deriving Repr

namespace GraphIndex

/-- The connections that leave a node on a port. -/
def outgoing (index : Table (Table (List Connection))) (node port : String) : List Connection :=
  ((index.get? node).bind (·.get? port)).getD []

/-- The index with one more connection. -/
def join (index : Table (Table (List Connection))) (c : Connection) :
    Table (Table (List Connection)) :=
  let ports := (index.get? c.source).getD []
  index.insert c.source (ports.insert c.port (outgoing index c.source c.port ++ [c]))

/-- The connections by node and port. -/
def leavingOf (connections : List Connection) : Table (Table (List Connection)) :=
  connections.foldl join []

/-- The nodes by id; the id that two of them share is refused. -/
def nodesFrom (seen : Table Node) : List Node → Except String (Table Node)
  | [] => .ok seen
  | n :: rest => if seen.contains n.id then .error n.id else nodesFrom (seen.insert n.id n) rest

end GraphIndex

/-- **A workflow.** -/
structure Workflow where
  /-- its name in the repository -/
  id : String
  /-- its name for people -/
  name : String
  /-- when it fires, as the editor's list shows it -/
  triggerType : String
  /-- on what it fires, as the editor's list shows it -/
  triggerContent : String
  /-- whether it takes part -/
  enabled : Bool
  /-- whether later workflows do not see a message that it matched -/
  stopPropagation : Bool
  /-- its nodes in declared order -/
  nodes : List Node
  /-- its connections in declared order -/
  connections : List Connection
  /-- its graph -/
  index : GraphIndex
  deriving Repr

namespace Workflow

/-- The document with its nodes as a list, and without connections where there is nothing. -/
def arranged (data : Table Value) : Table Value :=
  let data := match data.get? "nodes" with
    | some (.object entries) => data.insert "nodes" (.list (entries.map Prod.snd))
    | _ => data
  match data.get? "connections" with
  | none | some .null => data.insert "connections" (.list [])
  | some _ => data

/-- The fields of a workflow, its graph not yet indexed. -/
def readFields (data : Table Value) : Checked Workflow :=
  finish do
    let id ← required data "id" text ""
    let name ← optional data "name" text "untitled"
    let triggerType ← optional data "trigger_type" text "exact"
    let triggerContent ← optional data "trigger_content" text ""
    let enabled ← optional data "enabled" flag true
    let stopPropagation ← optional data "stop_propagation" flag false
    let nodes ← optional data "nodes" (items Node.read) []
    let connections ← optional data "connections" (items Connection.read) []
    return ⟨id, name, triggerType, triggerContent, enabled, stopPropagation, nodes, connections,
      ⟨[], []⟩⟩

/-- The rule that two nodes share an id. -/
def duplicate (id : String) : List Defect :=
  [⟨[], "value_error", some ("Value error, duplicate node id '" ++ id ++ "'")⟩]

/-- The workflow with its graph indexed. -/
def indexed (w : Workflow) : Checked Workflow :=
  match GraphIndex.nodesFrom [] w.nodes with
  | .ok nodes => .ok { w with index := ⟨nodes, GraphIndex.leavingOf w.connections⟩ }
  | .error id => .error (duplicate id)

/-- **A workflow read from a document.** -/
def read (v : Value) : Checked Workflow := do
  let data ← record v
  let w ← readFields (arranged data)
  indexed w

/-- **A workflow loaded**: all defects of its document make one fault. -/
def load (v : Value) : Except Fault Workflow :=
  (read v).mapError (.invalidDocument .workflow)

/-- The workflow as a document. -/
def toValue (w : Workflow) : Value :=
  .object [("id", .text w.id), ("name", .text w.name), ("trigger_type", .text w.triggerType),
    ("trigger_content", .text w.triggerContent), ("enabled", .bool w.enabled),
    ("stop_propagation", .bool w.stopPropagation), ("nodes", .list (w.nodes.map Node.toValue)),
    ("connections", .list (w.connections.map Connection.toValue))]

/-- **The workflow as a document for others**, with the parameters of its nodes in plain form. -/
def document (w : Workflow) : Value := toValue { w with nodes := w.nodes.map Node.plain }

/-- The node of an id. -/
def node? (w : Workflow) (id : String) : Option Node := w.index.nodes.get? id

/-- The nodes that fire the workflow, in declared order. -/
def triggers (w : Workflow) : List Node := w.nodes.filter Node.isTrigger

/-- The connections that leave a node on a port, in declared order. -/
def outgoing (w : Workflow) (id port : String) : List Connection :=
  GraphIndex.outgoing w.index.leaving id port

end Workflow

end ChatFlow
