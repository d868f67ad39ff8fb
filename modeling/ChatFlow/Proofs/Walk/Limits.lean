import ChatFlow.Proofs.Walk.Bounds

/-!
# Runs under different limits

The same run is made twice, under limits and under larger ones. Up to the first refusal that only
the smaller limits make, the two cannot be told apart, so:

* `Course.cut` — under a smaller limit of visits, the nodes entered are the first of those entered
  under a larger one, in the same worlds;
* `Course.raise` — a walk that no limit stopped is the same walk under larger limits;
* `Course.bounded_noted` — a walk that a limit stopped has a note of it;
* `run_within` — both, for runs.
-/

namespace ChatFlow

/-! ## Other limits -/

/-- **The scene under other limits.** -/
def Scene.within (scene : Scene) (limits : Walk.Limits) : Scene where
  occasion := scene.occasion
  surface := scene.surface
  settings := { scene.settings with
    engine := { scene.settings.engine with maxDepth := limits.depth, maxVisits := limits.visits } }

namespace Scene

variable (scene : Scene) (limits : Walk.Limits)

@[simp] theorem limits_within : (scene.within limits).limits = limits := rfl

theorem lineHeaders_within (headers : Table String) (rows : List (List Char)) :
    WebCall.lineHeaders (scene.within limits) headers rows =
      WebCall.lineHeaders scene headers rows := by
  induction rows generalizing headers with
  | nil => rfl
  | cons line rest ih =>
    unfold WebCall.lineHeaders
    simp only [ih]
    rfl

theorem requestOf_within (p : ActionParams) :
    WebCall.requestOf (scene.within limits) p = WebCall.requestOf scene p := by
  unfold WebCall.requestOf WebCall.headersOf
  simp only [lineHeaders_within]
  rfl

theorem webCall_within (p : ActionParams) :
    WebCall.run (scene.within limits) p = WebCall.run scene p := by
  unfold WebCall.run
  rw [requestOf_within]
  rfl

theorem action_within (p : ActionParams) :
    Action.run (scene.within limits) p = Action.run scene p := by
  unfold Action.run
  congr 1
  funext value
  rcases ActionKind.ofName? p.actionType with _ | kind
  · rfl
  cases kind
  case web => exact scene.webCall_within limits p
  all_goals rfl

/-- The work of a node does not depend on the limits. -/
theorem performIn_within (node : Node) :
    Walk.performIn (scene.within limits) node = Walk.performIn scene node := by
  unfold Walk.performIn Node.run
  cases node.params
  case action p => simp only [action_within]
  all_goals rfl

end Scene

namespace Entry

theorem performIn_within (e : Entry) (scene : Scene) (limits : Walk.Limits) :
    Walk.performIn (e.scene (scene.within limits)) = Walk.performIn (e.scene scene) := by
  funext node
  cases e with
  | message => exact scene.performIn_within limits node
  | clock => exact (clock.scene scene).performIn_within limits node

/-- Nor does the departure of a run. -/
theorem departure_within (e : Entry) (scene : Scene) (limits : Walk.Limits) (w : Workflow) :
    e.departure (scene.within limits) w = e.departure scene w := by
  cases e <;> rfl

end Entry

/-! ## What a walk leaves -/

/-- The world with its notes left out. -/
def World.unnoted (w : World) : World := { w with log := [] }

/-- The notes that were written since. -/
def World.notesSince (before after : World) : List Note := after.log.drop before.log.length

theorem World.notesSince_subset {u v : World} (h : u.log <+: v.log) (after : World) :
    v.notesSince after ⊆ u.notesSince after :=
  List.drop_subset_drop_left after.log h.length_le

/-- Whether a note says that a limit stopped a walk. -/
def Note.isWalkBounded : Note → Bool
  | .walkBounded _ _ _ _ => true
  | _ => false

/-- Whether the work of a visit came to its end. -/
def Visit.isOver (v : Visit) : Bool :=
  match v.fate with
  | .entered _ none _ => false
  | _ => true

namespace Walk

/-- **The world that visits leave**: what the last of them left that entered its node. -/
def worldAfter : World → List Visit → World
  | world, [] => world
  | world, v :: rest =>
    match v.fate with
    | .entered _ _ after => worldAfter after rest
    | _ => worldAfter world rest

/-- **Visits one after another**: each enters its node in the world that the one before it left,
notes apart. -/
def Chained : World → List Visit → Prop
  | _, [] => True
  | world, v :: rest =>
    match v.fate with
    | .entered before _ after => before.unnoted = world.unnoted ∧ Chained after rest
    | _ => Chained world rest

variable {w : Workflow} {perform : Node → Act World Bool} {limits larger : Limits}
  {stack : List Pending} {walk last : Walk} {vs : List Visit} {ending : Outcome Unit}

/-- What limits admit, larger ones do. -/
theorem Limits.Admits.mono {depth : Nat} (h : limits.Admits depth walk)
    (hd : limits.depth ≤ larger.depth) (hv : limits.visits ≤ larger.visits) :
    larger.Admits depth walk :=
  ⟨Int.le_trans h.1 hd, Int.lt_of_lt_of_le h.2 hv⟩

@[simp] theorem unnoted_stopAt (workflow id : String) (depth : Nat) :
    (stopAt workflow id depth walk).2.world.unnoted = walk.world.unnoted := by
  unfold stopAt
  split <;> rfl

@[simp] theorem limited_stopAt (workflow id : String) (depth : Nat) :
    (stopAt workflow id depth walk).2.limited = true := by
  unfold stopAt
  split
  · next h => exact h
  · rfl

namespace Course

/-- **The world changes only by the work of nodes**, notes apart. -/
theorem unnoted_eq (h : Course w perform limits stack walk vs ending last) {world : World}
    (hw : walk.world.unnoted = world.unnoted) :
    last.world.unnoted = (worldAfter world (stays vs)).unnoted := by
  induction h generalizing world with
  | finished walk => exact hw
  | unknown hn rest ih => exact ih hw
  | refused hn hr rest ih => exact ih ((unnoted_stopAt _ _ _).trans hw)
  | hung hn ha hw => rfl
  | entered hn ha hw rest ih => exact ih rfl

theorem chained (h : Course w perform limits stack walk vs ending last) {world : World}
    (hw : walk.world.unnoted = world.unnoted) : Chained world (stays vs) := by
  induction h generalizing world with
  | finished walk => exact trivial
  | unknown hn rest ih => exact ih hw
  | refused hn hr rest ih => exact ih ((unnoted_stopAt _ _ _).trans hw)
  | hung hn ha hx => exact ⟨hw, trivial⟩
  | entered hn ha hx rest ih => exact ⟨hw, ih rfl⟩

/-- A walk comes to its end exactly if the work of all nodes entered does. -/
theorem done_iff (h : Course w perform limits stack walk vs ending last) :
    ending = .done () ↔ ∀ v ∈ stays vs, v.isOver := by
  induction h with
  | finished walk => exact ⟨fun _ => nofun, fun _ => rfl⟩
  | unknown hn rest ih => exact ih
  | refused hn hr rest ih => exact ih
  | hung hn ha hw =>
    refine ⟨nofun, fun h => ?_⟩
    cases h _ List.mem_cons_self
  | entered hn ha hw rest ih =>
    rw [ih, stays_entered, List.forall_mem_cons]
    exact ⟨fun h => ⟨rfl, h⟩, fun h => h.2⟩

/-! ## Fewer visits -/

/-- With no visits left, whatever waits is dropped. -/
theorem exists_of_spent (w : Workflow) (perform : Node → Act World Bool) (stack : List Pending)
    (walk : Walk) (hs : limits.visits ≤ walk.visited.length) :
    ∃ vs last, Course w perform limits stack walk vs (.done ()) last ∧ stays vs = [] := by
  induction stack generalizing walk with
  | nil => exact ⟨[], walk, .finished walk, rfl⟩
  | cons p stack ih =>
    rcases hn : w.node? p.id with _ | node
    · obtain ⟨vs, last, hc, hv⟩ := ih walk hs
      exact ⟨_, last, .unknown hn hc, hv⟩
    · have hr : ¬ limits.Admits p.depth walk := fun ha => by
        have := ha.2
        omega
      obtain ⟨vs, last, hc, hv⟩ := ih (stopAt w.id p.id p.depth walk).2 (by rwa [visited_stopAt])
      exact ⟨_, last, .refused hn hr hc, hv⟩

/-- With no visits left, no node of a longer walk is left to enter either. -/
theorem exists_take_of_spent (w : Workflow) (perform : Node → Act World Bool)
    (stack : List Pending) (walk : Walk) (hs : limits.visits ≤ walk.visited.length)
    (vs : List Visit) :
    ∃ vs' ending' last', Course w perform limits stack walk vs' ending' last' ∧
      stays vs' = (stays vs).take (limits.visits.toNat - walk.visited.length) := by
  obtain ⟨vs', last', hc, hv⟩ := exists_of_spent w perform stack walk hs
  refine ⟨vs', _, last', hc, ?_⟩
  rw [hv, Nat.sub_eq_zero_of_le (by omega), List.take_zero]

/-- **A walk under a smaller limit of visits** enters the first of the nodes that it enters under a
larger one, in the same worlds. The invariant counts what is left of the smaller limit. -/
theorem cut (h : Course w perform larger stack walk vs ending last)
    (hd : limits.depth = larger.depth) (hv : limits.visits ≤ larger.visits) :
    ∃ vs' ending' last', Course w perform limits stack walk vs' ending' last' ∧
      stays vs' = (stays vs).take (limits.visits.toNat - walk.visited.length) := by
  induction h with
  | finished walk => exact ⟨[], _, walk, .finished walk, List.take_nil.symm⟩
  | unknown hn rest ih =>
    obtain ⟨vs', ending', last', hc, hs⟩ := ih
    exact ⟨_, ending', last', .unknown hn hc, hs⟩
  | @refused p stack walk last vs ending node hn hr rest ih =>
    obtain ⟨vs', ending', last', hc, hs⟩ := ih
    rw [visited_stopAt] at hs
    exact ⟨_, ending', last', .refused hn (fun ha => hr (ha.mono (Int.le_of_eq hd) hv)) hc, hs⟩
  | @hung p stack walk last node hn ha hw =>
    by_cases hl : (walk.visited.length : Int) < limits.visits
    · obtain ⟨n, hn'⟩ : ∃ n, limits.visits.toNat - walk.visited.length = n + 1 :=
        Nat.exists_eq_add_one.mpr (by omega)
      refine ⟨_, _, last, .hung hn ⟨hd ▸ ha.1, hl⟩ hw, ?_⟩
      rw [hn', stays_entered, List.take_succ_cons]
      exact congrArg _ List.take_nil.symm
    · exact exists_take_of_spent w perform (p :: stack) walk (Int.not_lt.mp hl) _
  | @entered p stack walk after last vs ending node passed hn ha hw rest ih =>
    -- either both enter the node and one visit less is left, or the smaller limit is spent
    by_cases hl : (walk.visited.length : Int) < limits.visits
    · obtain ⟨vs', ending', last', hc, hs⟩ := ih
      have hn' : limits.visits.toNat - walk.visited.length =
          limits.visits.toNat - after.visited.length + 1 := by
        rw [(frame_attend hw).1, List.length_append, List.length_singleton]
        omega
      refine ⟨_, ending', last', .entered hn ⟨hd ▸ ha.1, hl⟩ hw hc, ?_⟩
      rw [hn', stays_entered, stays_entered, List.take_succ_cons, hs]
    · exact exists_take_of_spent w perform (p :: stack) walk (Int.not_lt.mp hl) _

/-! ## Larger limits -/

/-- A walk that a limit stopped stays one. -/
theorem limited_of_limited (h : Course w perform limits stack walk vs ending last)
    (hl : walk.limited = true) : last.limited = true := by
  induction h with
  | finished walk => exact hl
  | unknown hn rest ih => exact ih hl
  | refused hn hr rest ih => exact ih (limited_stopAt _ _ _)
  | hung hn ha hw => exact (frame_attend hw).2.1.trans hl
  | entered hn ha hw rest ih => exact ih ((frame_attend hw).2.1.trans hl)

/-- **A walk that no limit stopped** is the same walk under larger limits. -/
theorem raise (h : Course w perform limits stack walk vs ending last) (hl : last.limited = false)
    (hd : limits.depth ≤ larger.depth) (hv : limits.visits ≤ larger.visits) :
    Course w perform larger stack walk vs ending last := by
  induction h with
  | finished walk => exact .finished walk
  | unknown hn rest ih => exact .unknown hn (ih hl)
  | refused hn hr rest ih =>
    -- a refusal would have left its mark on the walk
    have := rest.limited_of_limited (limited_stopAt _ _ _)
    rw [hl] at this
    cases this
  | hung hn ha hw => exact .hung hn (ha.mono hd hv) hw
  | entered hn ha hw rest ih => exact .entered hn (ha.mono hd hv) hw (ih hl)

/-- **A walk that a limit stopped has a note of it**, unless it was one from the start. -/
theorem bounded_noted (h : Course w perform limits stack walk vs ending last)
    (hp : ∀ node, (perform node).Keeps .recording) (hl : last.limited = true) :
    walk.limited = true ∨ ∃ note ∈ walk.world.notesSince last.world, note.isWalkBounded := by
  have hfree := Conduct.frees_recording ⟨fun _ _ => .hangs⟩
  induction h with
  | finished walk => exact .inl hl
  | unknown hn rest ih => exact ih hl
  | @refused p stack walk last vs ending node hn hr rest ih =>
    -- the first refusal writes the note, and what follows only adds to the notes
    by_cases hwl : walk.limited = true
    · exact .inl hwl
    · have hlog : walk.world.log ++ [.walkBounded w.id p.id p.depth walk.visited.length] <+:
          last.world.log := by
        have := (rest.keeps hfree hp).1
        rwa [stopAt, if_neg hwl] at this
      obtain ⟨more, hmore⟩ := hlog
      refine .inr ⟨.walkBounded w.id p.id p.depth walk.visited.length, ?_, rfl⟩
      rw [World.notesSince, ← hmore, List.append_assoc, List.drop_left]
      exact List.mem_cons_self
  | hung hn ha hw => exact .inl ((frame_attend hw).2.1.symm.trans hl)
  | entered hn ha hw rest ih =>
    rcases ih hl with hl | ⟨note, hm, hb⟩
    · exact .inl ((frame_attend hw).2.1.symm.trans hl)
    · exact .inr ⟨note, World.notesSince_subset (keeps_attend hfree (hp _) hw).1 _ hm, hb⟩

end Course

end Walk

/-! ## Runs -/

namespace Entry

/-- The world in which the walk of a run begins; where there is none, the world of the result. -/
def begun (e : Entry) (scene : Scene) (w : Workflow) (world : World) : World :=
  match e.departure scene w world with
  | (.done (some d), world') => (d.begun world').world
  | (_, world') => world'

/-- **A run cut short** after so many nodes entered, compared with the run that goes on. -/
structure CutShort (e : Entry) (short long : Scene) (w : Workflow) (world : World) (n : Nat) :
    Prop where
  /-- the nodes entered are the first of the other run, at the same depths and in the same worlds -/
  stays : Walk.stays (e.visits short w world) = (Walk.stays (e.visits long w world)).take n
  /-- the list of nodes visited is cut, and there is a result where the other run has one -/
  visited : ∀ r, (e.run long w world).1 = .done r →
    ∃ r', (e.run short w world).1 = .done r' ∧ r'.visited = r.visited.take n
  /-- each node of the other run is entered in the world that the one before it left -/
  chained : Walk.Chained (e.begun long w world) (Walk.stays (e.visits long w world))
  /-- the world at the end, calls and stored values included, is the one that the last of those
  nodes left; only notes may follow -/
  world : (e.run short w world).2.unnoted =
    (Walk.worldAfter (e.begun long w world)
      ((Walk.stays (e.visits long w world)).take n)).unnoted

variable {e : Entry} {scene : Scene} {w : Workflow} {world world' : World} {d : Departure}
  {limits larger : Walk.Limits}

/-- The course of a run under other limits. -/
theorem course_within (limits : Walk.Limits)
    (hd : e.departure scene w world = (.done (some d), world')) :
    ∃ ending last, Walk.Course w (Walk.performIn (e.scene scene)) limits d.pending (d.begun world')
        (e.visits (scene.within limits) w world) ending last ∧
      e.run (scene.within limits) w world = (ending.map fun _ => d.result last, last.world) := by
  rw [← departure_within e scene limits] at hd
  have h := course_of_departure hd
  rwa [performIn_within, Scene.limits_within] at h

/-- Where there is no departure, there is no walk. -/
theorem run_of_none {ending : Outcome (Option Departure)}
    (he : e.departure scene w world = (ending, world')) (hn : ∀ d, ending ≠ .done (some d)) :
    e.run scene w world = (ending.map fun _ => .unmatched, world') ∧
      e.visits scene w world = [] ∧ e.begun scene w world = world' := by
  rw [run_eq, visits, begun, he]
  rcases ending with (_ | d) | f | _
  case done.some => exact absurd rfl (hn d)
  case done.none => exact ⟨Act.run_bind_done he, rfl, rfl⟩
  case failed => exact ⟨Act.run_bind_failed he, rfl, rfl⟩
  case hung => exact ⟨Act.run_bind_hung he, rfl, rfl⟩

theorem run_within_of_none {ended : Outcome (Option Departure)} (limits : Walk.Limits)
    (he : e.departure scene w world = (ended, world')) (hn : ¬ ∃ d, ended = .done (some d)) :
    e.run (scene.within limits) w world = (ended.map fun _ => .unmatched, world') ∧
      e.visits (scene.within limits) w world = [] ∧
      e.begun (scene.within limits) w world = world' := by
  rw [← departure_within e scene limits] at he
  exact run_of_none he fun d hd => hn ⟨d, hd⟩

/-- **A smaller limit of visits cuts a run short.** -/
theorem cutShort_within (e : Entry) (scene : Scene) (w : Workflow) (world : World)
    (hd : limits.depth = larger.depth) (hv : limits.visits ≤ larger.visits) :
    e.CutShort (scene.within limits) (scene.within larger) w world limits.visits.toNat := by
  rcases he : e.departure scene w world with ⟨ended, world'⟩
  by_cases hn : ∃ d, ended = .done (some d)
  · obtain ⟨d, rfl⟩ := hn
    have hb : e.begun (scene.within larger) w world = (d.begun world').world := by
      rw [begun, departure_within, he]
    obtain ⟨ending, last, hc, hr⟩ := course_within larger he
    obtain ⟨ending', last', hc', hr'⟩ := course_within limits he
    obtain ⟨vs, _, _, hcut, hs⟩ := hc.cut hd hv
    obtain ⟨rfl, rfl, rfl⟩ := hc'.unique hcut
    change _ = List.take limits.visits.toNat _ at hs
    refine ⟨hs, fun r hdone => ?_, ?_, ?_⟩
    · rw [hr] at hdone
      rcases ending with _ | _ | _
      case failed | hung => cases hdone
      obtain rfl := Outcome.done.inj hdone
      have hover := hc.done_iff.mp rfl
      have hover' := hc'.done_iff.mpr fun v hm => hover v (List.mem_of_mem_take (hs ▸ hm))
      rw [hr', hover']
      refine ⟨_, rfl, ?_⟩
      change last'.visited = last.visited.take _
      rw [hc'.visited_eq, hc.visited_eq, hs, List.map_take]
      rfl
    · rw [hb]
      exact hc.chained rfl
    · rw [hb, hr', ← hs]
      exact hc'.unnoted_eq rfl
  · obtain ⟨hr, hv, -⟩ := run_within_of_none limits he hn
    obtain ⟨hr', hv', hb⟩ := run_within_of_none larger he hn
    refine ⟨by rw [hv, hv']; exact List.take_nil.symm, fun r hdone => ?_, ?_, ?_⟩
    · rw [hr'] at hdone
      rw [hr]
      rcases ended with _ | _ | _
      case failed | hung => cases hdone
      obtain rfl := Outcome.done.inj hdone
      exact ⟨_, rfl, List.take_nil.symm⟩
    · rw [hv']
      exact trivial
    · rw [hv', hr, hb]
      exact congrArg (fun vs => (Walk.worldAfter world' vs).unnoted) List.take_nil.symm

/-- **Limits that are not met do not matter**: a run without a note of them is the same run under
larger ones. -/
theorem run_eq_of_unbounded (e : Entry) (scene : Scene) (w : Workflow) (world : World)
    (hd : limits.depth ≤ larger.depth) (hv : limits.visits ≤ larger.visits)
    (hb : ∀ note ∈ world.notesSince (e.run (scene.within limits) w world).2,
      ¬ note.isWalkBounded) :
    e.run (scene.within larger) w world = e.run (scene.within limits) w world := by
  rcases he : e.departure scene w world with ⟨ended, world'⟩
  by_cases hn : ∃ d, ended = .done (some d)
  · obtain ⟨d, rfl⟩ := hn
    obtain ⟨ending, last, hc, hr⟩ := course_within limits he
    obtain ⟨ending', last', hc', hr'⟩ := course_within larger he
    have hfree := Conduct.frees_recording scene.surface.platform
    have hlog := (hfree.departure e w world).1
    rw [he] at hlog
    cases hl : last.limited with
    | false =>
      obtain ⟨-, rfl, rfl⟩ := (hc.raise hl hd hv).unique hc'
      rw [hr, hr']
    | true =>
      rcases hc.bounded_noted (hfree.performIn_entry e) hl with hl | ⟨note, hm, hnote⟩
      · cases hl
      · rw [hr] at hb
        exact absurd hnote (hb note (World.notesSince_subset hlog _ hm))
  · obtain ⟨hr, -⟩ := run_within_of_none limits he hn
    obtain ⟨hr', -⟩ := run_within_of_none larger he hn
    rw [hr, hr']

/-- **Runs under different limits.** Under a smaller limit of visits a run is the first part of the
run under the larger; and a run that no limit stopped is the same under larger limits. -/
theorem run_within (e : Entry) (scene : Scene) (w : Workflow) (world : World)
    (limits larger : Walk.Limits) (hd : limits.depth ≤ larger.depth)
    (hv : limits.visits ≤ larger.visits) :
    (limits.depth = larger.depth →
        e.CutShort (scene.within limits) (scene.within larger) w world limits.visits.toNat) ∧
      ((∀ note ∈ world.notesSince (e.run (scene.within limits) w world).2,
          ¬ note.isWalkBounded) →
        e.run (scene.within larger) w world = e.run (scene.within limits) w world) :=
  ⟨fun hd => cutShort_within e scene w world hd hv,
    run_eq_of_unbounded e scene w world hd hv⟩

/-- The loop cut short, and the loop without its connections, which no limit stops. -/
theorem run_within_loop :
    let scene := Loop.scene Loop.willing ⟨64, 256⟩
    let opened := { Loop.workflow with index := { Loop.workflow.index with leaving := [] } }
    message.CutShort (scene.within ⟨64, 3⟩) (scene.within ⟨64, 5⟩) Loop.workflow Loop.world 3 ∧
      message.run (scene.within ⟨64, 5⟩) opened Loop.world =
        message.run (scene.within ⟨64, 3⟩) opened Loop.world := by
  intro scene opened
  exact ⟨(run_within message scene Loop.workflow Loop.world ⟨64, 3⟩ ⟨64, 5⟩ (by decide)
      (by decide)).1 rfl,
    (run_within message scene opened Loop.world ⟨64, 3⟩ ⟨64, 5⟩ (by decide) (by decide)).2
      (by decide)⟩

end Entry

end ChatFlow
