import ChatFlow.Proofs.Engine.Agreement
import ChatFlow.Proofs.Engine.Nodes
import ChatFlow.Proofs.Walk.Entry

/-!
# Privacy of stored values

A run is about one user. It writes no value of another one, and what it does, it does whatever the
others have stored.

* `Walk.agrees_visit` — what nodes agree on, walks agree on, by induction on the levels;
* `Entry.agrees_run` — and runs;
* `Entry.leads_run` — a conduct that the nodes of a workflow keep is kept by its runs;
* `Workflow.sharing_of_load`, `Workflow.ranking_of_load` — only nodes of two kinds reach beyond the
  user: those that store values for everybody, and rankings;
* `Conduct.discreet` — nothing is written of other users, or of values for everybody;
* `Entry.run_private` — **a run writes no value of another user, and without a ranking reads none**.
-/

namespace ChatFlow

namespace Walk

/-! ## Walks side by side -/

/-- **Two walks are side by side**: they have been to the same places, in related worlds. -/
def Alongside (R : World → World → Prop) (s t : Walk) : Prop :=
  R s.world t.world ∧ s.visited = t.visited ∧ s.limited = t.limited

variable {R : World → World → Prop} {w : Workflow} {perform : Node → Act World Bool}

theorem agrees_onWorld {α : Type} {act : Act World α} (h : act.Agrees R) :
    (onWorld act).Agrees (Alongside R) := by
  rintro s t ⟨hworld, hsame⟩
  obtain ⟨hending, hafter⟩ := h s.world t.world hworld
  exact ⟨hending, hafter, hsame⟩

theorem agrees_enter (id : String) : (enter id).Agrees (Alongside R) :=
  .change fun _ _ ⟨hworld, hvisited, hlimited⟩ => ⟨hworld, by rw [hvisited], hlimited⟩

variable (hnotes : ∀ ns, (World.notes ns).Agrees R)

include hnotes

theorem agrees_stopAt (workflow id : String) (depth : Nat) :
    (stopAt workflow id depth).Agrees (Alongside R) := by
  rintro s t ⟨hworld, hvisited, hlimited⟩
  unfold stopAt
  rw [hlimited, hvisited]
  split
  · exact ⟨rfl, hworld, hvisited, hlimited⟩
  · exact ⟨rfl, (hnotes [_] s.world t.world hworld).2, rfl, rfl⟩

theorem agrees_work (workflow : String) {node : Node} (h : (perform node).Agrees R) :
    (work workflow perform node).Agrees (Alongside R) := by
  refine .bind (agrees_onWorld h.attempt) fun ending => ?_
  cases ending with
  | ok passed => exact .pure _
  | error f => exact .bind (agrees_onWorld (hnotes [_])) fun _ => .pure _

variable (hperform : ∀ id node, w.node? id = some node → (perform node).Agrees R)

include hperform

/-- **What the nodes of a workflow agree on, a visit and all that it leads to agrees on.** -/
theorem agrees_visit (maxVisits : Int) (left depth : Nat) (id : String) :
    (visit w perform maxVisits left depth id).Agrees (Alongside R) := by
  induction left generalizing depth id with
  | zero =>
    unfold visit
    cases w.node? id with
    | none => exact .pure ()
    | some node => exact agrees_stopAt hnotes _ _ _
  | succ left ih =>
    unfold visit
    cases hn : w.node? id with
    | none => exact .pure ()
    | some node =>
      refine .look ?_ fun walk => ?_
      · rintro s t ⟨-, hvisited, -⟩
        simp only [hvisited]
      · split
        · exact .bind (agrees_enter id) fun _ =>
            .bind (agrees_work hnotes w.id (hperform id node hn)) fun _ =>
              .forEach fun c _ => ih (depth + 1) c.target
        · exact agrees_stopAt hnotes _ _ _

end Walk

/-! ## Runs side by side -/

section

variable {R : World → World → Prop} (hcontext : ∀ s t, R s t → s.context = t.context)
  (hnotes : ∀ ns, (World.notes ns).Agrees R)
  (hstart : ∀ context, (Act.change fun w : World => { w with context }).Agrees R)
  (hfires : ∀ p text, (Trigger.fires p text).Agrees R)

namespace Entry

variable {scene : Scene} {w : Workflow}

include hfires in
theorem agrees_first (text : String) (nodes : List Node) : (Trigger.first text nodes).Agrees R := by
  induction nodes with
  | nil => exact .pure _
  | cons node rest ih =>
    unfold Trigger.first
    split
    · refine .bind (hfires _ _) fun fired => ?_
      cases fired with
      | none => exact ih
      | some captures => exact .pure _
    · exact ih

include hfires in
theorem agrees_departure (e : Entry) : (e.departure scene w).Agrees R := by
  cases e with
  | clock => exact .pure _
  | message =>
    refine .bind (agrees_first hfires _ _) fun found => ?_
    cases found with
    | none => exact .pure _
    | some found => exact .pure _

variable {e : Entry}
  (hperform : ∀ id node, w.node? id = some node → (Walk.performIn (e.scene scene) node).Agrees R)

include hcontext hnotes hstart hperform

theorem agrees_travel (d : Departure) : (e.travel scene w d).Agrees R := by
  intro s t h
  have hbegun : Walk.Alongside R (d.begun s) (d.begun t) := ⟨(hstart _ s t h).2, rfl, rfl⟩
  have hwalk : (d.walk (e.scene scene) w scene.limits).Agrees (Walk.Alongside R) :=
    .forEach fun id _ => Walk.agrees_visit hnotes hperform _ _ _ _
  obtain ⟨hending, hworld, hvisited, -⟩ := hwalk _ _ hbegun
  rw [run_travel, run_travel]
  refine ⟨?_, hworld⟩
  simp only [hending, Departure.result, hvisited, hcontext _ _ hworld]

include hfires

/-- **What the nodes of a workflow agree on, its runs agree on.** -/
theorem agrees_run : (e.run scene w).Agrees R := by
  rw [run_eq]
  refine .bind (agrees_departure hfires e) fun d => ?_
  cases d with
  | none => exact .pure _
  | some d => exact agrees_travel hcontext hnotes hstart hperform d

end Entry

end

/-- **What the nodes of a workflow keep to, its runs keep to.** -/
theorem Entry.leads_run {c : Conduct} (h : c.Permits) {e : Entry} {scene : Scene} {w : Workflow}
    (hfires : ∀ p text, (Trigger.fires p text).Keeps c)
    (hperform : ∀ id node, w.node? id = some node →
      (Walk.performIn (e.scene scene) node).Keeps c) (world : World) :
    c.leads world (e.run scene w world).2 := by
  have hrun : (e.run scene w).Agrees fun s t => s = t ∧ c.leads world s := by
    refine agrees_run (R := fun s t => s = t ∧ c.leads world s)
      (fun s t hst => congrArg World.context hst.1) (fun ns => .of_keeps (h.notes ns) world)
      (fun context => .of_keeps (.change fun w' => h.context w' context) world)
      (fun p text => .of_keeps (hfires p text) world)
      fun id node hn => .of_keeps (hperform id node hn) world
  exact (hrun world world ⟨rfl, c.refl world⟩).2.2

/-! ## Nodes that reach beyond the user -/

namespace Params

theorem not_shared_of_ofAction {data : Table Value} {p : Params} (h : ofAction data = .ok p) :
    (∀ q, p ≠ .storage .everyone q) ∧ ∀ q, p ≠ .leaderboard q := by
  unfold ofAction at h
  split at h <;> obtain ⟨q, -, rfl⟩ := exists_of_map_ok h <;> exact ⟨nofun, nofun⟩

/-- Values for everybody are stored by nodes of one kind, and users are ranked by nodes of one kind. -/
theorem kind_of_read {kind : String} {data : Table Value} {p : Params}
    (h : read kind data = .ok p) :
    (∀ q, p = .storage .everyone q → kind = "global_storage") ∧
      ∀ q, p = .leaderboard q → kind = "leaderboard" := by
  unfold read ofTable at h
  split at h
  case h_3 =>
    obtain ⟨hs, hl⟩ := not_shared_of_ofAction h
    exact ⟨fun q hq => absurd hq (hs q), fun q hq => absurd hq (hl q)⟩
  case h_7 =>
    obtain ⟨q, -, rfl⟩ := exists_of_map_ok h
    exact ⟨fun _ _ => rfl, nofun⟩
  case h_8 =>
    obtain ⟨q, -, rfl⟩ := exists_of_map_ok h
    exact ⟨nofun, fun _ _ => rfl⟩
  case h_12 =>
    obtain rfl := Except.ok.inj h
    exact ⟨nofun, nofun⟩
  all_goals
    obtain ⟨q, -, rfl⟩ := exists_of_map_ok h
    exact ⟨nofun, nofun⟩

end Params

namespace Workflow

/-- **Whether no node of a kind is there.** -/
def Lacks (w : Workflow) (kind : String) : Prop := ∀ n ∈ w.nodes, n.kind ≠ kind

instance (w : Workflow) (kind : String) : Decidable (w.Lacks kind) :=
  inferInstanceAs (Decidable (∀ n ∈ w.nodes, n.kind ≠ kind))

variable {v : Value} {w : Workflow} {id : String} {node : Node}

theorem kind_of_load (h : load v = .ok w) (hn : w.node? id = some node) :
    (∀ q, node.params = .storage .everyone q → node.kind = "global_storage") ∧
      ∀ q, node.params = .leaderboard q → node.kind = "leaderboard" := by
  refine forall_nodes_of_load (P := fun n =>
    (∀ q, n.params = .storage .everyone q → n.kind = "global_storage") ∧
      ∀ q, n.params = .leaderboard q → n.kind = "leaderboard")
    (fun u n hread => ?_) h node (mem_of_node? h hn).1
  obtain ⟨data, -, hread⟩ := exists_of_bind_ok hread
  obtain ⟨fields, -, hread⟩ := exists_of_bind_ok hread
  obtain ⟨params, hp, hread⟩ := exists_of_bind_ok hread
  obtain rfl := Except.ok.inj hread
  exact Params.kind_of_read hp

/-- Where no node stores values for everybody, none that is found has the record of one. -/
theorem Lacks.not_shared (hl : w.Lacks "global_storage") (h : load v = .ok w)
    (hn : w.node? id = some node) (q : StorageParams) : node.params ≠ .storage .everyone q :=
  fun hq => hl node (mem_of_node? h hn).1 ((kind_of_load h hn).1 q hq)

/-- Where no node ranks users, none that is found has the record of one. -/
theorem Lacks.not_ranking (hl : w.Lacks "leaderboard") (h : load v = .ok w)
    (hn : w.node? id = some node) (q : LeaderboardParams) : node.params ≠ .leaderboard q :=
  fun hq => hl node (mem_of_node? h hn).1 ((kind_of_load h hn).2 q hq)

end Workflow

/-! ## Discretion -/

namespace Conduct

/-- **Nothing is written of other users**, nor, if those are spared, of values for everybody. -/
def discreet (user : String) (spared : Prop) : Conduct where
  leads u v := (∀ other, other ≠ user → v.store.record other = u.store.record other) ∧
    (spared → v.store.globals = u.store.globals)
  hangs := True
  refl _ := ⟨fun _ _ => rfl, fun _ => rfl⟩
  trans huv hvw := ⟨fun other h => (hvw.1 other h).trans (huv.1 other h),
    fun h => (hvw.2 h).trans (huv.2 h)⟩

variable (user : String) (spared : Prop)

theorem allows_discreet (p : Platform) : (discreet user spared).Allows p where
  context w _ := (discreet user spared).refl w
  dice w _ := (discreet user spared).refl w
  patterns w _ := (discreet user spared).refl w
  network w _ _ := (discreet user spared).refl w
  sleeps w _ := (discreet user spared).refl w
  log w _ := (discreet user spared).refl w
  disk w _ := (discreet user spared).refl w
  calls w _ := (discreet user spared).refl w
  hangs _ _ _ := trivial

theorem discreet_own (w : World) (record : Table Value) :
    (discreet user spared).leads w { w with store := w.store.withRecord user record } := by
  refine ⟨fun other h => ?_, fun _ => rfl⟩
  rw [Store.record_withRecord, if_neg (Ne.symm h)]

theorem discreet_shared (h : ¬ spared) (w : World) (globals : Table Value) :
    (discreet user spared).leads w { w with store := { w.store with globals } } :=
  ⟨fun _ _ => rfl, fun hs => absurd hs h⟩

end Conduct

namespace Entry

variable {v : Value} {w : Workflow} (h : Workflow.load v = .ok w) (e : Entry) (scene : Scene)

theorem user_scene : (e.scene scene).occasion.event = scene.occasion.event := by
  cases e <;> rfl

include h

/-- **A run is discreet** about other users, and about values for everybody where no node stores
any. -/
theorem discreet_run (world : World) :
    (Conduct.discreet scene.occasion.event.userId (w.Lacks "global_storage")).leads world
      (e.run scene w world).2 := by
  obtain ⟨c, hc⟩ : ∃ c, c = Conduct.discreet scene.occasion.event.userId
    (w.Lacks "global_storage") := ⟨_, rfl⟩
  have hallows : c.Allows (e.scene scene).surface.platform := by
    rw [hc]
    exact Conduct.allows_discreet _ _ _
  have hdiscipline : Discipline c.Kept scene.occasion.event.userId
      (e.scene scene).surface.platform :=
    hallows.discipline fun w' record => hc ▸ Conduct.discreet_own _ _ w' record
  have hperform : ∀ id node, w.node? id = some node →
      (Walk.performIn (e.scene scene) node).Keeps c := by
    intro id node hn
    rw [← user_scene e] at hdiscipline
    refine hdiscipline.performIn node (fun q hq key => ?_) fun q _ => hallows.leaderboard q _
    refine hallows.sharing fun w' globals _ => ?_
    rw [hc]
    exact Conduct.discreet_shared _ _ (fun hl => hl.not_shared h hn q hq) w' globals
  rw [← hc]
  exact leads_run hallows.toPermits hdiscipline.fires hperform world

/-- **Without a ranking, a run comes to the same** in worlds that read the same to its user. -/
theorem same_run (hl : w.Lacks "leaderboard") :
    World.Same scene.occasion.event.userId _ (e.run scene w) := by
  have hdiscipline :=
    World.same_discipline scene.occasion.event.userId (e.scene scene).surface.platform
  refine agrees_run (fun s t hst => hst.alike.context) hdiscipline.notes
    (fun context => World.same_of_blind (fun _ _ => rfl) fun _ => rfl) hdiscipline.fires
    fun id node hn => ?_
  rw [← user_scene e] at hdiscipline ⊢
  exact hdiscipline.performIn node (fun _ _ => World.same_sharing _)
    fun q hq => absurd hq (hl.not_ranking h hn q)

end Entry

/-- **Users are private to each other.** Whatever a workflow does for a user, it writes no value of
another user, and no value for everybody unless a node is there to do so; and unless a node is there
to rank users, it does the same whatever the others have stored: the run ends alike, and so is
everything it leaves, the values of the others aside. -/
theorem Entry.run_private {v : Value} {w : Workflow} (h : Workflow.load v = .ok w) (e : Entry)
    (scene : Scene) :
    (∀ world other, other ≠ scene.occasion.event.userId →
      (e.run scene w world).2.store.record other = world.store.record other) ∧
    (w.Lacks "global_storage" →
      ∀ world, (e.run scene w world).2.store.globals = world.store.globals) ∧
    (w.Lacks "leaderboard" → ∀ world world' : World,
      World.Alike scene.occasion.event.userId world world' → world.durable = false →
        world.store.Keyed scene.occasion.event.userId →
        world'.store.Keyed scene.occasion.event.userId →
          (e.run scene w world).1 = (e.run scene w world').1 ∧
            World.Alike scene.occasion.event.userId (e.run scene w world).2
              (e.run scene w world').2) := by
  refine ⟨fun world => (discreet_run h e scene world).1,
    fun hl world => (discreet_run h e scene world).2 hl, ?_⟩
  intro hl world world' halike hmemory hkeyed hkeyed'
  obtain ⟨hending, hpaired⟩ := same_run h e scene hl world world'
    ⟨halike.storeless, hmemory, halike.own, halike.shared, hkeyed, hkeyed'⟩
  exact ⟨hending, hpaired.alike⟩

/-! ## Two users -/

namespace Points

/-- **A workflow that counts points**: each `go` counts one up for its sender and tells the sum. -/
def document : Value :=
  .object [("id", .text "points"),
    ("nodes", .list [
      .object [("id", .text "ask"), ("type", .text "trigger"),
        ("data", .object [("trigger_content", .text "go")])],
      .object [("id", .text "count"), ("type", .text "storage"),
        ("data", .object [("storage_type", .text "incr"), ("storage_key", .text "points"),
          ("storage_value", .text "1")])],
      .object [("id", .text "tell"), ("type", .text "action"),
        ("data", .object [("action_value", .text "\x7bstorage.points\x7d")])]]),
    ("connections", .list [
      .object [("from_node", .text "ask"), ("to_node", .text "count")],
      .object [("from_node", .text "count"), ("to_node", .text "tell")]])]

/-- The count of points. -/
def count : Node :=
  ⟨"count", "storage", Node.origin, Node.origin,
    [("storage_type", .text "incr"), ("storage_key", .text "points"), ("storage_value", .text "1")],
    .storage .user ⟨"incr", "points", "1", "", .int 0, []⟩⟩

/-- The reply with the sum. -/
def tell : Node :=
  ⟨"tell", "action", Node.origin, Node.origin, [("action_value", .text "\x7bstorage.points\x7d")],
    .action ⟨"reply_text", "\x7bstorage.points\x7d", "", "", "qq", "", "", .bool false, .bool false, "",
      .bool false, "", "", "\x7b\x7d", "", "", "GET", "", "", .int 10, "json", "text", "", []⟩⟩

/-- The workflow as it is loaded. -/
def workflow : Workflow where
  id := "points"
  name := "untitled"
  triggerType := "exact"
  triggerContent := ""
  enabled := true
  stopPropagation := false
  nodes := [Loop.ask, count, tell]
  connections := [⟨"ask", "count", successPort⟩, ⟨"count", "tell", successPort⟩]
  index := ⟨[("ask", Loop.ask), ("count", count), ("tell", tell)],
    [("ask", [(successPort, [⟨"ask", "count", successPort⟩])]),
      ("count", [(successPort, [⟨"count", "tell", successPort⟩])])]⟩

theorem load_document : Workflow.load document = .ok workflow := rfl

/-- A world in which the sender has two points, and somebody else some. -/
def world (others : Int) : World :=
  { Loop.world with
    store := ⟨[("10002", [("points", .int others)]), ("10001", [("points", .int 2)])], []⟩ }

end Points

theorem Entry.run_private_points :
    let scene := Loop.scene Loop.willing ⟨64, 5⟩
    Workflow.load Points.document = .ok Points.workflow ∧
      Points.workflow.Lacks "global_storage" ∧ Points.workflow.Lacks "leaderboard" ∧
      World.Alike "10001" (Points.world 5) (Points.world 9) ∧
      (message.run scene Points.workflow (Points.world 5)).2.store.record "10002" =
        (Points.world 5).store.record "10002" ∧
      (message.run scene Points.workflow (Points.world 5)).1 =
        (message.run scene Points.workflow (Points.world 9)).1 ∧
      World.Alike "10001" (message.run scene Points.workflow (Points.world 5)).2
        (message.run scene Points.workflow (Points.world 9)).2 := by
  intro scene
  have hglobal : Points.workflow.Lacks "global_storage" := by decide
  have hranking : Points.workflow.Lacks "leaderboard" := by decide
  have halike : World.Alike "10001" (Points.world 5) (Points.world 9) :=
    ⟨rfl, fun _ => rfl, fun _ => rfl⟩
  have h := Entry.run_private Points.load_document message scene
  have huser : scene.occasion.event.userId = "10001" := rfl
  simp only [huser] at h
  obtain ⟨hothers, -, hsame⟩ := h
  obtain ⟨hending, hafter⟩ := hsame hranking (Points.world 5) (Points.world 9) halike rfl
    ⟨by decide, by decide⟩ ⟨by decide, by decide⟩
  exact ⟨Points.load_document, hglobal, hranking, halike,
    hothers (Points.world 5) "10002" (by decide), hending, hafter⟩

end ChatFlow
