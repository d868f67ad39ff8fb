import ChatFlow.Proofs.Number.Literals
import ChatFlow.Proofs.Workflow.Loading

/-!
# Numbers for names

Nodes can be named by integers, and connections lead from and to them by the same integers. A document
is then loaded like the one in which each of these integers is written as text.

* `Value.spelled` — an integer as its text;
* `Workflow.respelled` — the document with the integers that name nodes spelled out;
* `Connection.Kept` — what an end of a connection names first is not the integer zero;
* `Workflow.load_respelled` — **both documents are loaded as the same workflow**, where this holds of
  every end;
* `Workflow.load_zero` — but a connection that leaves the node zero is lost.
-/

namespace ChatFlow

open Schema

/-! ## Integers spelled out -/

namespace Value

/-- **An integer as its text**; any other value as it is. -/
def spelled : Value → Value
  | .number (.int n) => .text (intText n)
  | v => v

/-- An integer is present when it is spelled out, be it zero. -/
theorem present_spelled (v : Value) (h : v ≠ .int 0) : v.spelled.present = v.present := by
  cases v with
  | number n =>
    cases n with
    | int n =>
      have hn : n ≠ 0 := by
        rintro rfl
        exact h rfl
      simp [spelled, present, intText_ne_empty, Number.isZero, hn]
    | double x => rfl
  | _ => rfl

/-- Entries with the integers under some keys spelled out. -/
def spelledFields (keys : List String) (fields : Table Value) : Table Value :=
  Table.change (fun key v => if keys.contains key then v.spelled else v) fields

theorem get?_spelledFields {keys : List String} {key : String} (h : keys.contains key = true)
    (fields : Table Value) :
    (spelledFields keys fields).get? key = (fields.get? key).map spelled := by
  rw [spelledFields, Table.get?_change, h]
  rfl

theorem get?_spelledFields_of_not {keys : List String} {key : String}
    (h : keys.contains key = false) (fields : Table Value) :
    (spelledFields keys fields).get? key = fields.get? key := by
  rw [spelledFields, Table.get?_change, h]
  exact congrFun Option.map_id _

/-- A map with the integers under some keys spelled out. -/
def spelledAt (keys : List String) : Value → Value
  | .object fields => .object (spelledFields keys fields)
  | v => v

/-- A change of every value in a list or a map. -/
def mapItems (f : Value → Value) : Value → Value
  | .list l => .list (l.map f)
  | .tuple l => .tuple (l.map f)
  | .object fields => .object (Table.change (fun _ => f) fields)
  | v => v

end Value

namespace Schema

variable {α : Type} {data data' : Table Value} {key : String} {read : Value → Checked α} {other : α}

/-- An integer is read as text like its text. -/
theorem text_spelled (v : Value) : text v.spelled = text v := by
  rcases v with _ | _ | (_ | _) | _ | _ | _ | _ | _ <;> rfl

theorem required_map : required data key read other =
    take other (inside key (((data.get? key).map read).getD (refuse "missing"))) := by
  rw [required]
  cases data.get? key <;> rfl

theorem optional_map : optional data key read other =
    (((data.get? key).map read).map fun r => take other (inside key r)).getD (pure other) := by
  rw [Schema.optional]
  cases data.get? key <;> rfl

/-- A field is read alike where what is there is. -/
theorem required_congr (h : (data'.get? key).map read = (data.get? key).map read) :
    required data' key read other = required data key read other := by
  rw [required_map, h, ← required_map]

theorem optional_congr (h : (data'.get? key).map read = (data.get? key).map read) :
    optional data' key read other = optional data key read other := by
  rw [optional_map, h, ← optional_map]

/-- Items are read alike where each of them is. -/
theorem items_mapItems {f : Value → Value} {v : Value} (h : ∀ u ∈ v.items, read (f u) = read u) :
    items read (v.mapItems f) = items read v := by
  have hfrom (l : List Value) (hl : ∀ u ∈ l, read (f u) = read u) (i : Nat) :
      itemsFrom read i (l.map f) = itemsFrom read i l := by
    induction l generalizing i with
    | nil => rfl
    | cons u rest ih =>
      rw [List.forall_mem_cons] at hl
      rw [List.map_cons, itemsFrom, itemsFrom, hl.1, ih hl.2]
  cases v with
  | list l => exact hfrom l h 0
  | tuple l => exact hfrom l h 0
  | _ => rfl

end Schema

/-! ## Nodes -/

namespace Node

/-- A node document with its name spelled out. -/
def respelled : Value → Value := Value.spelledAt ["id"]

theorem readFields_spelled (fields : Table Value) :
    readFields (Value.spelledFields ["id"] fields) = readFields fields := by
  have hid : ((Value.spelledFields ["id"] fields).get? "id").map text =
      (fields.get? "id").map text := by
    rw [Value.get?_spelledFields (by decide), Option.map_map]
    exact congrArg (fun f => (fields.get? "id").map f) (funext text_spelled)
  have hother (key : String) (hkey : ["id"].contains key = false) :=
    Value.get?_spelledFields_of_not hkey fields
  have hkind : required (Value.spelledFields ["id"] fields) "type" text "" =
      required fields "type" text "" := required_congr (by rw [hother "type" (by decide)])
  have hoptional {α : Type} {read : Value → Checked α} {other : α} (key : String)
      (hkey : ["id"].contains key = false) :
      optional (Value.spelledFields ["id"] fields) key read other =
        optional fields key read other := optional_congr (by rw [hother key hkey])
  rw [readFields, readFields, required_congr hid, hkind, hoptional "x" (by decide),
    hoptional "y" (by decide), hoptional "data" (by decide), hoptional "params" (by decide)]

theorem read_respelled (v : Value) : read (respelled v) = read v := by
  cases v with
  | object fields =>
    change (readFields (Value.spelledFields ["id"] fields) >>= fun _ => _) = _
    rw [readFields_spelled]
    rfl
  | _ => rfl

end Node

/-! ## Connections -/

namespace Connection

/-- The entries of a connection that name nodes. -/
def ends : List String := ["from_node", "from", "to_node", "to"]

/-- A connection document with the names of its ends spelled out. -/
def respelled : Value → Value := Value.spelledAt ends

/-- **An end that is kept**: what is named first, under the keys for it, is not the integer zero. -/
def Kept (v : Value) (keys : List String) : Prop :=
  ((keys.filterMap v.field?).find? fun u => u.spelled.present) ≠ some (.int 0)

/-- What is present first is so too when integers are spelled out. -/
theorem find?_kept {l : List Value} (h : (l.find? fun u => u.spelled.present) ≠ some (.int 0)) :
    (l.find? fun u => u.spelled.present) = l.find? Value.present := by
  induction l with
  | nil => rfl
  | cons u rest ih =>
    rw [List.find?_cons] at h ⊢
    rw [List.find?_cons]
    cases hu : u.spelled.present with
    | true =>
      rw [hu] at h
      have hne : u ≠ .int 0 := fun heq => h (congrArg some heq)
      rw [← Value.present_spelled u hne, hu]
    | false =>
      rw [hu] at h
      have hne : u ≠ .int 0 := by
        rintro rfl
        simp [Value.spelled, Value.int, Value.present, intText_ne_empty] at hu
      rw [← Value.present_spelled u hne, hu]
      exact ih h

/-- **An end that is kept** is read alike. -/
theorem text_firstPresent {fields : Table Value} {keys : List String}
    (hkeys : ∀ key ∈ keys, ends.contains key = true) (h : Kept (.object fields) keys) :
    text (firstPresent (Value.spelledFields ends fields) keys "") =
      text (firstPresent fields keys "") := by
  have hfields : keys.filterMap (Value.spelledFields ends fields).get? =
      (keys.filterMap fields.get?).map Value.spelled := by
    rw [List.map_filterMap]
    exact List.filterMap_congr fun key hkey => Value.get?_spelledFields (hkeys key hkey) fields
  have hfirst : (keys.filterMap fields.get?).find? (Value.present ∘ Value.spelled) =
      (keys.filterMap fields.get?).find? Value.present := find?_kept h
  rw [firstPresent, firstPresent, hfields, List.find?_map, hfirst]
  rcases (keys.filterMap fields.get?).find? Value.present with _ | u
  · rfl
  · exact text_spelled u

/-- **A connection whose ends are kept** is read alike. -/
theorem read_respelled {v : Value} (hsource : Kept v ["from_node", "from"])
    (htarget : Kept v ["to_node", "to"]) : read (respelled v) = read v := by
  cases v with
  | object fields =>
    have hother (key : String) (hkey : ends.contains key = false) :=
      Value.get?_spelledFields_of_not hkey fields
    have hport : firstPresent (Value.spelledFields ends fields) ["from_output", "port"] successPort =
        firstPresent fields ["from_output", "port"] successPort := by
      simp only [firstPresent, List.filterMap_cons, List.filterMap_nil,
        hother "from_output" (by decide), hother "port" (by decide)]
    have hkeys : (∀ key ∈ ["from_node", "from"], ends.contains key = true) ∧
        ∀ key ∈ ["to_node", "to"], ends.contains key = true := by decide
    simp only [read, respelled, Value.spelledAt, record, bind, Except.bind, hport,
      text_firstPresent hkeys.1 hsource, text_firstPresent hkeys.2 htarget]
  | _ => rfl

end Connection

/-! ## Documents -/

namespace Workflow

/-- The change of an entry of a workflow document. -/
def respelledEntry (key : String) (v : Value) : Value :=
  if key = "nodes" then v.mapItems Node.respelled
  else if key = "connections" then v.mapItems Connection.respelled
  else v

/-- **The document with the integers that name nodes spelled out**: the names of the nodes, and those at
the ends of connections. -/
def respelled : Value → Value
  | .object fields => .object (Table.change respelledEntry fields)
  | v => v

theorem get?_respelled {key : String} (hnodes : key ≠ "nodes") (hconnections : key ≠ "connections")
    (fields : Table Value) : (Table.change respelledEntry fields).get? key = fields.get? key := by
  have hsame : respelledEntry key = fun v => v := by
    funext v
    rw [respelledEntry, if_neg hnodes, if_neg hconnections]
  rw [Table.get?_change, hsame, Option.map_id']

/-- **Both documents are read alike.** -/
theorem readFields_respelled {fields : Table Value}
    (h : ∀ c ∈ (Value.orNull (fields.get? "connections")).items,
      Connection.Kept c ["from_node", "from"] ∧ Connection.Kept c ["to_node", "to"]) :
    readFields (arranged (Table.change respelledEntry fields)) = readFields (arranged fields) := by
  have hother {key : String} (hnodes : key ≠ "nodes") (hconnections : key ≠ "connections") :
      (arranged (Table.change respelledEntry fields)).get? key = (arranged fields).get? key := by
    rw [get?_arranged, get?_arranged, if_neg hconnections, if_neg hnodes, if_neg hconnections,
      if_neg hnodes, get?_respelled hnodes hconnections]
  have hrequired : required (arranged (Table.change respelledEntry fields)) "id" text "" =
      required (arranged fields) "id" text "" :=
    required_congr (by rw [hother (by decide) (by decide)])
  have hoptional {α : Type} {read : Value → Checked α} {other : α} (key : String)
      (hnodes : key ≠ "nodes") (hconnections : key ≠ "connections") :
      optional (arranged (Table.change respelledEntry fields)) key read other =
        optional (arranged fields) key read other :=
    optional_congr (by rw [hother hnodes hconnections])
  have hnodes :
      optional (arranged (Table.change respelledEntry fields)) "nodes" (items Node.read) [] =
        optional (arranged fields) "nodes" (items Node.read) [] := by
    refine optional_congr ?_
    have hread (v : Value) : items Node.read (listed (respelledEntry "nodes" v)) =
        items Node.read (listed v) := by
      cases v with
      | object entries =>
        have hlist : (Table.change (fun _ => Node.respelled) entries).map Prod.snd =
            (entries.map Prod.snd).map Node.respelled := by
          simp [Table.change]
        change items Node.read (.list ((Table.change _ entries).map Prod.snd)) = _
        rw [hlist]
        exact items_mapItems (v := .list (entries.map Prod.snd)) fun u _ => Node.read_respelled u
      | list l => exact items_mapItems (v := .list l) fun u _ => Node.read_respelled u
      | tuple l => exact items_mapItems (v := .tuple l) fun u _ => Node.read_respelled u
      | _ => rfl
    rw [get?_arranged, get?_arranged, if_neg (by decide), if_pos rfl, if_neg (by decide), if_pos rfl,
      Table.get?_change, Option.map_map, Option.map_map, Option.map_map]
    exact congrArg (fun f => (fields.get? "nodes").map f) (funext hread)
  have hconnections :
      optional (arranged (Table.change respelledEntry fields)) "connections"
          (items Connection.read) [] =
        optional (arranged fields) "connections" (items Connection.read) [] := by
    refine optional_congr ?_
    rw [get?_arranged, get?_arranged, if_pos rfl, if_pos rfl, Table.get?_change]
    refine congrArg some ?_
    have hread (c : Value) (hc : c ∈ (Value.orNull (fields.get? "connections")).items) :=
      Connection.read_respelled (h c hc).1 (h c hc).2
    generalize fields.get? "connections" = entry at hread ⊢
    rcases entry with _ | (_ | _ | _ | _ | _ | l | l | _)
    case some.list => exact items_mapItems (v := .list l) hread
    case some.tuple => exact items_mapItems (v := .tuple l) hread
    all_goals rfl
  rw [readFields, readFields, hrequired, hnodes, hconnections, hoptional "name" (by decide) (by decide),
    hoptional "trigger_type" (by decide) (by decide),
    hoptional "trigger_content" (by decide) (by decide),
    hoptional "enabled" (by decide) (by decide),
    hoptional "stop_propagation" (by decide) (by decide)]

/-- **Both documents are loaded as the same workflow**, where every end of every connection is kept: the
same nodes under the same names, and the same connections that leave them on every port. What is refused
is refused alike. -/
theorem load_respelled {v : Value}
    (h : ∀ c ∈ (v.get "connections").items, Connection.Kept c ["from_node", "from"] ∧
      Connection.Kept c ["to_node", "to"]) : load (respelled v) = load v := by
  cases v with
  | object fields =>
    change (readFields (arranged (Table.change respelledEntry fields)) >>= indexed).mapError _ = _
    rw [readFields_respelled h]
    rfl
  | _ => rfl

/-! ## A relay -/

namespace Relay

/-- A node. -/
def node (id : Int) (kind : String) : Value := .object [("id", .int id), ("type", .text kind)]

/-- Two nodes that lead to each other, one way written as by one editor and one as by the other. -/
def written (first second : Int) : Value :=
  .object [("id", .text "relay"),
    ("nodes", .list [node first "trigger", node second "action"]),
    ("connections", .list [
      .object [("from_node", .int first), ("to_node", .int second)],
      .object [("from_node", .text ""), ("from", .int second), ("to", .int first)]])]

/-- Where a node leads to. -/
def next (v : Value) (id : String) : Except Fault (List String) :=
  (load v).map fun w => (w.outgoing id successPort).map Connection.target

theorem kept_written : ∀ c ∈ ((written 7 8).get "connections").items,
    Connection.Kept c ["from_node", "from"] ∧ Connection.Kept c ["to_node", "to"] := by
  have hseven : some (Value.int 7) ≠ some (.int 0) := by simp [Value.int]
  have hnext : some (Value.int 8) ≠ some (.int 0) := by simp [Value.int]
  exact List.forall_mem_cons.mpr ⟨⟨hseven, hnext⟩,
    List.forall_mem_singleton.mpr ⟨hnext, hseven⟩⟩

end Relay

open Relay in
/-- Nodes named 7 and 8 lead to each other. -/
theorem load_respelled_relay :
    (∀ c ∈ ((written 7 8).get "connections").items,
      Connection.Kept c ["from_node", "from"] ∧ Connection.Kept c ["to_node", "to"]) ∧
      load (respelled (written 7 8)) = load (written 7 8) ∧
      next (written 7 8) "7" = .ok ["8"] ∧ next (written 7 8) "8" = .ok ["7"] :=
  ⟨kept_written, load_respelled kept_written, rfl, rfl⟩

open Relay in
/-- **A connection that leaves the node zero is lost**, unless the zero is spelled out. -/
theorem load_zero :
    next (written 0 1) "0" = .ok [] ∧ next (respelled (written 0 1)) "0" = .ok ["1"] :=
  ⟨rfl, rfl⟩

end Workflow

end ChatFlow
