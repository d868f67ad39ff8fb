import ChatFlow.Proofs.Number.Literals
import ChatFlow.Proofs.Store.Tallies

/-!
# What stands under a key

A value that a node has set stands until a node writes under its key again, and so does a variable
until a node that declares it is executed. Walks take their turns in any order.

* `Turn.Writes` — a turn writes a stored value, `Turn.keeps_after` — **a turn that does not leaves it**,
  reading nodes among them;
* `Tally.Untouched` — nothing has written a stored value since, `Tally.Untouched.held_eq` — by
  induction on it, the value stands;
* `Turn.Sets.held_after` — **what a node has set is held**, also where it could not be kept;
* `Turn.Gets.result` — what a node has read is in its result variable;
* `Stage.Carried` — nothing has written a variable since, `Stage.Carried.get?_eq` — so it stands, too.
-/

namespace ChatFlow

/-- What follows an act keeps the store that it left, if it keeps every store. -/
theorem Act.store_bind {α β : Type} {act : Act World α} {next : α → Act World β}
    (hnext : ∀ a, (next a).Keeps .leavingStore) (w : World) :
    ((act >>= next) w).2.store = (act w).2.store := by
  rcases hrun : act w with ⟨a | f | _, u⟩
  · rw [run_bind_done hrun]
    exact (hnext a u).1
  · rw [run_bind_failed hrun]
  · rw [run_bind_hung hrun]

/-- A stored value that is not nothing is read as it is. -/
theorem Store.orDefault_some {v : Value} (hv : v ≠ .null) (default : Value) :
    orDefault default (some v) = v := by
  unfold orDefault
  split
  · next hnone => cases hnone
  · next hnull => exact absurd (Option.some.inj hnull) hv
  · next hsome => exact (Option.some.inj hsome).symm

/-! ## Writing under a key -/

namespace Storage

/-- **A node that only reads**, or whose operation is not known, leaves stored values as they are. -/
theorem run_reading {p : StorageParams}
    (h : ∀ operation, Operation.ofName? p.storageType = some operation → operation = .get)
    (scope : StorageScope) (o : Occasion) : (run scope p o).Keeps .leavingStore := by
  have hpermits := Conduct.permits_leavingStore
  have hrender (template : String) := (hpermits.inward o.event.userId).render template
  unfold run
  refine .bind (hrender p.key) fun key => ?_
  split
  · exact .pure ()
  · refine .bind (hrender p.value) fun value => ?_
    split
    · exact .pure ()
    · next operation hoperation =>
      obtain rfl := h operation hoperation
      refine .bind (fun w => ⟨?_, ?_⟩) fun result => hpermits.assign _ result
      · cases scope <;> rfl
      · cases scope <;> exact nofun

end Storage

/-- **A write in memory stands**, whatever becomes of keeping it. -/
theorem World.store_write {α : Type} (c : Collection) (step : Store → α × Store) (w : World) :
    (World.write c step w).2.store = (step w.store).2 := by
  have hrun : World.write c step w = (World.keep c >>= fun _ => pure (step w.store).1)
      { w with store := (step w.store).2 } := rfl
  rw [hrun, Act.store_bind fun _ => .pure _]
  exact (World.keep_same c _).1

theorem Tally.held_write {c : Tally} {user : String} (huser : c.scope = .user → user = c.user)
    (v : Value) (w : World) :
    c.held (Storage.write c.scope user c.key v w).2.store = some v := by
  unfold Storage.write
  cases hscope : c.scope with
  | user =>
    obtain rfl := huser hscope
    rw [World.setUser, World.store_write]
    exact held_setUser hscope w.store v
  | everyone =>
    rw [World.setGlobal, World.store_write]
    exact held_setGlobal hscope w.store v

namespace Turn

/-- **Whether a turn writes a stored value**: its node stores, this one among them, and does not only
read. -/
def Writes (t : Turn) (c : Tally) (s : Stage) : Prop :=
  ∃ scope p key operation, t.node.params = .storage scope p ∧
    (Template.render t.scene.occasion p.key (s.seen t.walk)).1 = .done key ∧
    c.Is scope t.scene.occasion.event.userId key ∧
    Storage.Operation.ofName? p.storageType = some operation ∧ operation ≠ .get

/-- **Whether a turn sets a stored value** to what a text spells: its node sets values of the scope, and
its key and its value are rendered as the key and the text. -/
structure Sets (t : Turn) (c : Tally) (p : StorageParams) (text : String) (s : Stage) : Prop where
  /-- its node stores values of the scope -/
  node : t.node.params = .storage c.scope p
  /-- it sets them -/
  operation : p.storageType = "set"
  /-- on behalf of the user, where there is one -/
  user : c.scope = .user → t.scene.occasion.event.userId = c.user
  /-- its key and its value are rendered as the key and the text -/
  rendered : ∃ u v, Template.render t.scene.occasion p.key (s.seen t.walk) = (.done c.key, u) ∧
    Template.render t.scene.occasion p.value u = (.done text, v)

/-- **Whether a turn reads a stored value** into its result variable. -/
structure Gets (t : Turn) (c : Tally) (p : StorageParams) (s : Stage) : Prop where
  /-- its node stores values of the scope -/
  node : t.node.params = .storage c.scope p
  /-- it reads them -/
  operation : p.storageType = "get"
  /-- on behalf of the user, where there is one -/
  user : c.scope = .user → t.scene.occasion.event.userId = c.user
  /-- its key is rendered as the key, and its value can be rendered, which is not used -/
  rendered : ∃ u text v, Template.render t.scene.occasion p.key (s.seen t.walk) = (.done c.key, u) ∧
    Template.render t.scene.occasion p.value u = (.done text, v)

variable {t : Turn} {c : Tally} {p : StorageParams} {text : String} {s : Stage} {v : Value}

/-- **A turn that does not write a stored value leaves it**, whatever else it does. -/
theorem keeps_after (h : ¬ t.Writes c s) : c.held (t.after s).world.store = c.held s.world.store := by
  by_cases habout : t.IsAbout c s
  · obtain ⟨scope, p, key, hp, hkey, hc⟩ := habout
    have hreads : ∀ operation, Storage.Operation.ofName? p.storageType = some operation →
        operation = .get := fun operation hoperation =>
      by_contra fun hwrites => h ⟨scope, p, key, operation, hp, hkey, hc, hoperation, hwrites⟩
    rw [after_storage hp]
    exact congrArg c.held (Storage.run_reading hreads scope _ (s.seen t.walk)).1
  · exact spares_after habout

/-- **What a node has set is held**, also where it could not be kept. -/
theorem Sets.held_after (h : t.Sets c p text s) (hv : Value.ofLiteral text = .ok v) :
    c.held (t.after s).world.store = some v := by
  obtain ⟨u, w, hkey, hvalue⟩ := h.rendered
  have hperform : Storage.perform c.scope p t.scene.occasion.event.userId c.key text .set w =
      (Storage.write c.scope t.scene.occasion.event.userId c.key v >>= fun _ =>
        pure (.text text)) w := Act.run_bind_done (Act.run_of_ok hv w)
  rw [after_storage h.node, Storage.run_of_rendered c.named hkey hvalue (by rw [h.operation]; rfl),
    Act.store_bind fun _ => Conduct.permits_leavingStore.assign _ _, hperform,
    Act.store_bind fun _ => .pure _]
  exact Tally.held_write h.user v w

/-- **What a node has read is in its result variable.** -/
theorem Gets.result (h : t.Gets c p s) (hheld : c.held s.world.store = some v) (hv : v ≠ .null) :
    ((t.after s).contexts t.walk).get? (Storage.resultVar c.scope p) = some v := by
  obtain ⟨u, text, w, hkey, hvalue⟩ := h.rendered
  have hsame : w.store = s.world.store :=
    Storage.store_of_rendered (w := s.seen t.walk) hkey hvalue
  have hread : Storage.perform c.scope p t.scene.occasion.event.userId c.key text .get w =
      (.done v, w) := by
    unfold Storage.perform Storage.read
    rw [← hsame, Tally.held] at hheld
    cases hscope : c.scope with
    | user =>
      rw [hscope] at hheld
      dsimp only at hheld ⊢
      rw [h.user hscope, World.userValue, Act.see, Store.userValue, hheld,
        Store.orDefault_some hv]
    | everyone =>
      rw [hscope] at hheld
      dsimp only at hheld ⊢
      rw [World.globalValue, Act.see, Store.globalValue, hheld, Store.orDefault_some hv]
  rw [contexts_after, after_storage h.node,
    Storage.run_of_rendered c.named hkey hvalue (by rw [h.operation]; rfl), Act.run_bind_done hread]
  change (w.context.insert (Storage.resultVar c.scope p) v).get? (Storage.resultVar c.scope p) = _
  rw [Table.get?_insert, if_pos rfl]

end Turn

/-! ## As long as nothing is written -/

namespace Tally

variable {c : Tally} {first s : Stage}

/-- **Nothing has written a stored value** since a stage: turns of any walks that do not write it, in
any order, and anything that is about another place. -/
inductive Untouched (c : Tally) (first : Stage) : Stage → Prop where
  /-- nothing has happened yet -/
  | start : Untouched c first first
  /-- a node did something else -/
  | turn {s : Stage} {t : Turn} (before : Untouched c first s) (h : ¬ t.Writes c s) :
    Untouched c first (t.after s)
  /-- something else went on: time passed, walks ended and began, or another place was written -/
  | elsewhere {s s' : Stage} {scope : StorageScope} {user key : String} (before : Untouched c first s)
    (h : ¬ c.Is scope user key) (hsame : Store.SameBut scope user key s.world.store s'.world.store) :
    Untouched c first s'

/-- **A value stands as long as nothing writes it.** -/
theorem Untouched.held_eq (h : c.Untouched first s) :
    c.held s.world.store = c.held first.world.store := by
  induction h with
  | start => rfl
  | turn _ hwrites ih => exact (Turn.keeps_after hwrites).trans ih
  | elsewhere _ hother hsame ih => exact (held_of_sameBut hother hsame).trans ih

end Tally

namespace Stage

variable {walk : Nat} {name : String} {first s : Stage}

/-- **Nothing has written a variable of a walk** since a stage: turns of other walks, turns of nodes
that do not declare it, and anything that leaves the variables of the walk. -/
inductive Carried (walk : Nat) (name : String) (first : Stage) : Stage → Prop where
  /-- nothing has happened yet -/
  | start : Carried walk name first first
  /-- a node did something else -/
  | turn {s : Stage} {t : Turn} (before : Carried walk name first s)
    (h : t.walk = walk → name ∉ t.node.declares) : Carried walk name first (t.after s)
  /-- something else went on -/
  | elsewhere {s s' : Stage} (before : Carried walk name first s)
    (h : s'.contexts walk = s.contexts walk) : Carried walk name first s'

/-- **A node that does not declare a variable leaves it**, a question like any other. -/
theorem context_performIn (scene : Scene) (node : Node) :
    (Walk.performIn scene node).Keeps (.framing node.declares) := by
  unfold Walk.performIn
  split
  · exact ((Conduct.tolerates_framing _).inward _).evaluate _
  · exact .bind (Node.run_context scene node) fun _ => .pure _

/-- **A variable stands as long as nothing writes it.** -/
theorem Carried.get?_eq (h : Carried walk name first s) :
    (s.contexts walk).get? name = (first.contexts walk).get? name := by
  induction h with
  | start => rfl
  | @turn s t _ hdeclares ih =>
    rw [← ih]
    by_cases hwalk : walk = t.walk
    · subst hwalk
      rw [Turn.contexts_after]
      exact (context_performIn t.scene t.node (s.seen t.walk)).1 name (hdeclares rfl)
    · have hsame : (t.after s).contexts walk = s.contexts walk := if_neg hwalk
      rw [hsame]
  | elsewhere _ hsame ih => rw [hsame, ih]

end Stage

end ChatFlow
