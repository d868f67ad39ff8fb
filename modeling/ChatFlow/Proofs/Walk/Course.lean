import ChatFlow.Engine.Walk
import ChatFlow.Proofs.Acts

/-!
# The course of a walk

A walk is a recursion over the graph: a visit leads to visits. Its **course** is the same walk told
one visit after another. What waits is a stack; the visit on top is taken off, and if it enters its
node, the nodes behind it are put on top of what still waits.

* `Visit` — a visit as it came out: its id unknown, refused by a limit, or its node entered;
* `Walk.visits` — the visits that a visit makes, itself first, read off the recursion;
* `Course` — the rules of the walk, one for each way a visit comes out. No rule counts levels;
* `course_of_forEach` — every walk has its course, with exactly the visits the recursion makes;
* `Course.unique` — and no other.

What holds of walks is proved by induction on the course.
-/

namespace ChatFlow

/-- **A visit that waits**: the id of a node, and how deep it lies. -/
structure Pending where
  /-- the id -/
  id : String
  /-- the depth -/
  depth : Nat
  deriving DecidableEq, Repr

/-- What came of a visit. -/
inductive Fate where
  /-- no node has the id -/
  | unknown
  /-- a limit stopped it -/
  | refused
  /-- the node was entered in one world, and its work left another. Whether the node is left on the
  success port; nothing where its work never ended -/
  | entered (before : World) (passed : Option Bool) (after : World)

/-- **A visit as it came out.** -/
structure Visit where
  /-- the id -/
  id : String
  /-- the depth -/
  depth : Nat
  /-- what came of it -/
  fate : Fate

/-- Whether a visit entered its node. -/
def Visit.isStay (v : Visit) : Bool :=
  match v.fate with
  | .entered _ _ _ => true
  | _ => false

namespace Walk

/-- **The visits that entered their nodes**, in order. -/
def stays (vs : List Visit) : List Visit := vs.filter Visit.isStay

/-! ## One visit -/

/-- **Whether the limits admit a visit** at a depth. -/
def Limits.Admits (limits : Limits) (depth : Nat) (walk : Walk) : Prop :=
  depth ≤ limits.depth ∧ walk.visited.length < limits.visits

instance (limits : Limits) (depth : Nat) (walk : Walk) : Decidable (limits.Admits depth walk) :=
  inferInstanceAs (Decidable (_ ∧ _))

/-- A node entered, and its work done. -/
def attend (w : Workflow) (perform : Node → Act World Bool) (id : String) (node : Node) :
    Act Walk Bool := do
  enter id
  work w.id perform node

/-- The ids behind a node, for the port it is left on. -/
def targets (w : Workflow) (id : String) (passed : Bool) : List String :=
  (w.outgoing id (portFor passed)).map Connection.target

/-- The visits that wait behind a node. -/
def successors (w : Workflow) (p : Pending) (passed : Bool) : List Pending :=
  (targets w p.id passed).map fun id => ⟨id, p.depth + 1⟩

/-- **The visits that a visit makes**, itself first. -/
def visits (w : Workflow) (perform : Node → Act World Bool) (maxVisits : Int) :
    Nat → Nat → String → Walk → List Visit
  | left, depth, id, walk =>
    match w.node? id with
    | none => [⟨id, depth, .unknown⟩]
    | some node =>
      match left with
      | 0 => [⟨id, depth, .refused⟩]
      | left + 1 =>
        if walk.visited.length < maxVisits then
          match attend w perform id node walk with
          | (.done passed, after) =>
            ⟨id, depth, .entered walk.world (some passed) after.world⟩ ::
              Act.collect (visit w perform maxVisits left (depth + 1))
                (visits w perform maxVisits left (depth + 1)) (targets w id passed) after
          | (_, after) => [⟨id, depth, .entered walk.world none after.world⟩]
        else [⟨id, depth, .refused⟩]

/-- The visits of a walk from some ids at a depth. -/
def visitsFrom (w : Workflow) (perform : Node → Act World Bool) (limits : Limits) (depth : Nat) :
    List String → Walk → List Visit :=
  Act.collect (start w perform limits depth)
    (visits w perform limits.visits (levels limits depth) depth)

@[simp] theorem stays_unknown (id : String) (depth : Nat) (vs : List Visit) :
    stays (⟨id, depth, .unknown⟩ :: vs) = stays vs := rfl

@[simp] theorem stays_refused (id : String) (depth : Nat) (vs : List Visit) :
    stays (⟨id, depth, .refused⟩ :: vs) = stays vs := rfl

@[simp] theorem stays_entered (id : String) (depth : Nat) (before after : World) (passed : Option Bool)
    (vs : List Visit) : stays (⟨id, depth, .entered before passed after⟩ :: vs) =
      ⟨id, depth, .entered before passed after⟩ :: stays vs := rfl

/-! ## What the steps of a walk do -/

variable {w : Workflow} {perform : Node → Act World Bool} {limits : Limits} {walk : Walk}
  {id : String} {node : Node} {depth left : Nat}

theorem run_stopAt (workflow : String) : stopAt workflow id depth walk =
    (.done (), (stopAt workflow id depth walk).2) := by
  unfold stopAt
  split <;> rfl

@[simp] theorem visited_stopAt (workflow : String) :
    (stopAt workflow id depth walk).2.visited = walk.visited := by
  unfold stopAt
  split <;> rfl

/-- The work of a node never fails: a failure is noted, and decides on the port. -/
theorem run_work (workflow : String) : work workflow perform node walk =
    match perform node walk.world with
    | (.done passed, world) => (.done passed, { walk with world })
    | (.failed _, world) => (.done (!node.isCondition),
        { walk with world := { world with log := world.log ++
          [.nodeFailed workflow node.id node.kind] } })
    | (.hung, world) => (.hung, { walk with world }) := by
  simp only [work, Act.run_bind, onWorld, Act.run_inside, Act.attempt]
  rcases perform node walk.world with ⟨_ | _ | _, world⟩ <;> rfl

theorem run_attend : attend w perform id node walk =
    work w.id perform node { walk with visited := walk.visited ++ [id] } := rfl

/-- What a visit that enters its node leaves in the walk besides the world. -/
theorem frame_attend {ending : Outcome Bool} {after : Walk}
    (h : attend w perform id node walk = (ending, after)) :
    after.visited = walk.visited ++ [id] ∧ after.limited = walk.limited ∧
      ∀ f, ending ≠ .failed f := by
  rw [run_attend, run_work] at h
  dsimp only at h
  rcases hp : perform node walk.world with ⟨_ | _ | _, world⟩ <;> rw [hp] at h <;>
    obtain ⟨rfl, rfl⟩ := Prod.mk.inj h <;> exact ⟨rfl, rfl, fun f hf => by cases hf⟩

theorem visit_unknown {maxVisits : Int} (hn : w.node? id = none) :
    visit w perform maxVisits left depth id = pure () := by
  rw [visit]
  simp only [hn]

theorem visits_unknown {maxVisits : Int} (hn : w.node? id = none) :
    visits w perform maxVisits left depth id walk = [⟨id, depth, .unknown⟩] := by
  rw [visits]
  simp only [hn]

/-- A visit with no level left is stopped. -/
theorem visit_zero {maxVisits : Int} (hn : w.node? id = some node) :
    visit w perform maxVisits 0 depth id = stopAt w.id id depth := by
  rw [visit]
  simp only [hn]

theorem visit_succ {maxVisits : Int} (hn : w.node? id = some node) :
    visit w perform maxVisits (left + 1) depth id walk =
      if walk.visited.length < maxVisits then
        (attend w perform id node >>= fun passed =>
          Act.forEach (targets w id passed) (visit w perform maxVisits left (depth + 1))) walk
      else stopAt w.id id depth walk := by
  rw [visit]
  simp only [hn, targets, Act.forEach_map]
  rw [Act.run_bind]
  simp only [Act.look]
  split <;> rfl

theorem visit_refused (hn : w.node? id = some node) (hr : ¬ limits.Admits depth walk) :
    start w perform limits depth id walk = stopAt w.id id depth walk := by
  unfold start
  rcases hl : levels limits depth with _ | left
  · rw [visit_zero hn]
  · have hv : ¬ (walk.visited.length : Int) < limits.visits := fun hv =>
      hr ⟨by unfold levels at hl; omega, hv⟩
    rw [visit_succ hn, if_neg hv]

theorem visits_refused (hn : w.node? id = some node) (hr : ¬ limits.Admits depth walk) :
    visits w perform limits.visits (levels limits depth) depth id walk =
      [⟨id, depth, .refused⟩] := by
  rcases hl : levels limits depth with _ | left <;> rw [visits] <;> simp only [hn]
  have hv : ¬ (walk.visited.length : Int) < limits.visits := fun hv =>
    hr ⟨by unfold levels at hl; omega, hv⟩
  rw [if_neg hv]

/-- One level less is left below a visit that the limits admit. -/
theorem levels_of_le (hd : (depth : Int) ≤ limits.depth) :
    levels limits depth = levels limits (depth + 1) + 1 := by
  unfold levels
  omega

theorem visit_admitted (hn : w.node? id = some node) (ha : limits.Admits depth walk) :
    start w perform limits depth id walk =
      (attend w perform id node >>= fun passed =>
        Act.forEach (targets w id passed) (start w perform limits (depth + 1))) walk := by
  unfold start
  rw [levels_of_le ha.1, visit_succ hn, if_pos ha.2]

theorem visits_admitted (hn : w.node? id = some node) (ha : limits.Admits depth walk) :
    visits w perform limits.visits (levels limits depth) depth id walk =
      match attend w perform id node walk with
      | (.done passed, after) => ⟨id, depth, .entered walk.world (some passed) after.world⟩ ::
          visitsFrom w perform limits (depth + 1) (targets w id passed) after
      | (_, after) => [⟨id, depth, .entered walk.world none after.world⟩] := by
  rw [levels_of_le ha.1, visits]
  simp only [hn, if_pos ha.2]
  rfl

/-! ## The course -/

/-- **The course of a walk**: from the visits that wait and the walk as it is, to the visits as they
came out, how the walk ended, and what it left. -/
inductive Course (w : Workflow) (perform : Node → Act World Bool) (limits : Limits) :
    List Pending → Walk → List Visit → Outcome Unit → Walk → Prop where
  /-- nothing waits any more -/
  | finished (walk : Walk) : Course w perform limits [] walk [] (.done ()) walk
  /-- a visit to an unknown node is dropped -/
  | unknown {p : Pending} {stack : List Pending} {walk last : Walk} {vs : List Visit}
      {ending : Outcome Unit} (hn : w.node? p.id = none)
      (rest : Course w perform limits stack walk vs ending last) :
      Course w perform limits (p :: stack) walk (⟨p.id, p.depth, .unknown⟩ :: vs) ending last
  /-- a visit beyond the limits is dropped, and noted -/
  | refused {p : Pending} {stack : List Pending} {walk last : Walk} {vs : List Visit}
      {ending : Outcome Unit} {node : Node} (hn : w.node? p.id = some node)
      (hr : ¬ limits.Admits p.depth walk)
      (rest : Course w perform limits stack (stopAt w.id p.id p.depth walk).2 vs ending last) :
      Course w perform limits (p :: stack) walk (⟨p.id, p.depth, .refused⟩ :: vs) ending last
  /-- the work of a node never ends, and nothing follows -/
  | hung {p : Pending} {stack : List Pending} {walk last : Walk} {node : Node}
      (hn : w.node? p.id = some node) (ha : limits.Admits p.depth walk)
      (hw : attend w perform p.id node walk = (.hung, last)) :
      Course w perform limits (p :: stack) walk
        [⟨p.id, p.depth, .entered walk.world none last.world⟩] .hung last
  /-- a node is entered, and the nodes behind it come next -/
  | entered {p : Pending} {stack : List Pending} {walk after last : Walk} {vs : List Visit}
      {ending : Outcome Unit} {node : Node} {passed : Bool} (hn : w.node? p.id = some node)
      (ha : limits.Admits p.depth walk)
      (hw : attend w perform p.id node walk = (.done passed, after))
      (rest : Course w perform limits (successors w p passed ++ stack) after vs ending last) :
      Course w perform limits (p :: stack) walk
        (⟨p.id, p.depth, .entered walk.world (some passed) after.world⟩ :: vs) ending last

/-- What a part of a walk contributes to the course of the whole: where it is done, the course goes
on with what waited below; where it hangs, the course ends. -/
def Leads (w : Workflow) (perform : Node → Act World Bool) (limits : Limits)
    (pending : List Pending) (walk : Walk) (vs : List Visit) : Outcome Unit × Walk → Prop
  | (.done _, after) => ∀ stack more ending last,
      Course w perform limits stack after more ending last →
      Course w perform limits (pending ++ stack) walk (vs ++ more) ending last
  | (.failed _, _) => False
  | (.hung, last) => ∀ stack, Course w perform limits (pending ++ stack) walk vs .hung last

/-- A row of visits leads where its visits lead one after another. -/
theorem leads_forEach {act : String → Act Walk Unit} {say : String → Walk → List Visit}
    (h : ∀ id walk, Leads w perform limits [⟨id, depth⟩] walk (say id walk) (act id walk))
    (ids : List String) (walk : Walk) :
    Leads w perform limits (ids.map fun id => ⟨id, depth⟩) walk (Act.collect act say ids walk)
      (Act.forEach ids act walk) := by
  induction ids generalizing walk with
  | nil => exact fun stack more ending last hc => hc
  | cons id rest ih =>
    have hid := h id walk
    rw [Act.forEach_cons]
    rcases ha : act id walk with ⟨_ | _ | _, after⟩
    · rw [ha] at hid
      have hrest := ih after
      rw [Act.run_bind_done ha, Act.collect_cons_done ha]
      rcases hf : Act.forEach rest act after with ⟨_ | _ | _, last⟩
      · rw [hf] at hrest
        intro stack more ending final hc
        rw [List.append_assoc]
        exact hid _ _ _ _ (hrest _ _ _ _ hc)
      · rw [hf] at hrest
        exact hrest
      · rw [hf] at hrest
        intro stack
        exact hid _ _ _ _ (hrest stack)
    · rw [ha] at hid
      exact hid.elim
    · rw [ha] at hid
      rw [Act.run_bind_hung ha, Act.collect_cons_hung ha]
      exact fun stack => hid _

/-- **A visit leads where its course goes.** The induction is on the levels left; the course itself
knows only the depth. -/
theorem leads_start (w : Workflow) (perform : Node → Act World Bool) (limits : Limits)
    (left : Nat) : ∀ depth, levels limits depth = left → ∀ id walk,
    Leads w perform limits [⟨id, depth⟩] walk
      (visits w perform limits.visits (levels limits depth) depth id walk)
      (start w perform limits depth id walk) := by
  induction left with
  | zero =>
    intro depth hl id walk
    rcases hn : w.node? id with _ | node
    · rw [start, visit_unknown hn, visits_unknown hn]
      exact fun stack more ending last hc => .unknown hn hc
    · have hr : ¬ limits.Admits depth walk := fun ha => by
        have := levels_of_le ha.1
        omega
      rw [visit_refused hn hr, visits_refused hn hr, run_stopAt]
      exact fun stack more ending last hc => .refused hn hr hc
  | succ left ih =>
    intro depth hl id walk
    rcases hn : w.node? id with _ | node
    · rw [start, visit_unknown hn, visits_unknown hn]
      exact fun stack more ending last hc => .unknown hn hc
    · by_cases ha : limits.Admits depth walk
      -- one level less is left for the nodes behind this one
      · have hbelow := ih (depth + 1) (by have := levels_of_le ha.1; omega)
        rw [visit_admitted hn ha, visits_admitted hn ha]
        rcases hw : attend w perform id node walk with ⟨passed | f | _, after⟩
        · rw [Act.run_bind_done hw]
          have hrow := leads_forEach hbelow (targets w id passed) after
          dsimp only
          unfold visitsFrom
          rcases hf : Act.forEach (targets w id passed) (start w perform limits (depth + 1)) after
            with ⟨_ | _ | _, last⟩ <;> rw [hf] at hrow
          · exact fun stack more ending final hc => .entered hn ha hw (hrow _ _ _ _ hc)
          · exact hrow
          · exact fun stack => .entered hn ha hw (hrow stack)
        · exact absurd rfl ((frame_attend hw).2.2 f)
        · rw [Act.run_bind_hung hw]
          exact fun stack => .hung hn ha hw
      · rw [visit_refused hn ha, visits_refused hn ha, run_stopAt]
        exact fun stack more ending last hc => .refused hn ha hc

/-- **Every walk has its course**, and the course makes the visits that the recursion makes. -/
theorem course_of_forEach (w : Workflow) (perform : Node → Act World Bool) (limits : Limits)
    (depth : Nat) (ids : List String) (walk : Walk) :
    Course w perform limits (ids.map fun id => ⟨id, depth⟩) walk
      (visitsFrom w perform limits depth ids walk)
      (Act.forEach ids (start w perform limits depth) walk).1
      (Act.forEach ids (start w perform limits depth) walk).2 := by
  have h := leads_forEach (leads_start w perform limits _ depth rfl) ids walk
  unfold visitsFrom
  rcases hf : Act.forEach ids (start w perform limits depth) walk with ⟨_ | _ | _, last⟩ <;>
    rw [hf] at h
  · have := h [] [] _ _ (.finished last)
    rwa [List.append_nil, List.append_nil] at this
  · exact h.elim
  · have := h []
    rwa [List.append_nil] at this

namespace Course

variable {stack : List Pending} {vs vs' : List Visit} {ending ending' : Outcome Unit}
  {last last' : Walk}

/-- **A walk has one course.** -/
theorem unique (h : Course w perform limits stack walk vs ending last)
    (h' : Course w perform limits stack walk vs' ending' last') :
    vs = vs' ∧ ending = ending' ∧ last = last' := by
  induction h generalizing vs' ending' last' with
  | finished walk =>
    cases h'
    exact ⟨rfl, rfl, rfl⟩
  | unknown hn rest ih =>
    cases h' with
    | unknown hn' rest' =>
      obtain ⟨rfl, he, hl⟩ := ih rest'
      exact ⟨rfl, he, hl⟩
    | refused hn' => simp [hn] at hn'
    | hung hn' => simp [hn] at hn'
    | entered hn' => simp [hn] at hn'
  | refused hn hr rest ih =>
    cases h' with
    | unknown hn' => simp [hn] at hn'
    | refused hn' hr' rest' =>
      obtain ⟨rfl, he, hl⟩ := ih rest'
      exact ⟨rfl, he, hl⟩
    | hung hn' ha' => exact absurd ha' hr
    | entered hn' ha' => exact absurd ha' hr
  | hung hn ha hw =>
    cases h' with
    | unknown hn' => simp [hn] at hn'
    | refused hn' hr' => exact absurd ha hr'
    | hung hn' ha' hw' =>
      obtain rfl := Option.some.inj (hn.symm.trans hn')
      obtain ⟨-, rfl⟩ := Prod.mk.inj (hw.symm.trans hw')
      exact ⟨rfl, rfl, rfl⟩
    | entered hn' ha' hw' =>
      obtain rfl := Option.some.inj (hn.symm.trans hn')
      simp [hw] at hw'
  | entered hn ha hw rest ih =>
    cases h' with
    | unknown hn' => simp [hn] at hn'
    | refused hn' hr' => exact absurd ha hr'
    | hung hn' ha' hw' =>
      obtain rfl := Option.some.inj (hn.symm.trans hn')
      simp [hw] at hw'
    | entered hn' ha' hw' rest' =>
      obtain rfl := Option.some.inj (hn.symm.trans hn')
      obtain ⟨hp, rfl⟩ := Prod.mk.inj (hw.symm.trans hw')
      obtain rfl := Outcome.done.inj hp
      obtain ⟨rfl, he, hl⟩ := ih rest'
      exact ⟨rfl, he, hl⟩

end Course

end Walk

end ChatFlow
