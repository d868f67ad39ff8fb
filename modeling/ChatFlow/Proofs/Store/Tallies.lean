import ChatFlow.Proofs.Engine.Frame
import ChatFlow.Proofs.Engine.Nodes
import ChatFlow.Proofs.Number.Whole
import ChatFlow.Proofs.Store.Keeping
import ChatFlow.Proofs.Template.Passes
import ChatFlow.Proofs.Walk.Entry

/-!
# Tallies

A stored value that nodes count up and down, while any number of walks run side by side.

* `Tally` — a key that is counted under, `Tally.held` — what a store holds of it;
* `Turn.spares_after` — **a node that is not about a tally leaves it alone**, whatever else it does;
* `Turn.Counts.held_after` — **a node that counts adds its amount** to what is held, or to the
  default where nothing is;
* `Tally.History` — what may happen: nodes that count, nodes that are about something else, and
  anything that leaves the tally alone, in any order;
* `Tally.held_history` — by induction on it, the tally is the default and all amounts together;
* `Tally.counts_exactly` — and so is the result of every node that counts, if its write to disk does
  not fail.
-/

namespace ChatFlow

/-! ## Amounts and defaults -/

/-- **A value that stands for an integer**: nothing and blank text for zero, a truth value for zero
or one, and text for the integer that it spells. -/
inductive Value.Denotes : Value → Int → Prop where
  /-- nothing -/
  | null : Denotes .null 0
  /-- a truth value -/
  | bool (b : Bool) : Denotes (.bool b) (if b then 1 else 0)
  /-- an integer -/
  | int (n : Int) : Denotes (.int n) n
  /-- blank text -/
  | blank {s : String} (h : trimChars s.toList = []) : Denotes (.text s) 0
  /-- text that spells it -/
  | spelled {s : String} {n : Int} (h : Number.Spells s n) : Denotes (.text s) n

theorem Value.toNumber_of_denotes {v : Value} {n : Int} (h : v.Denotes n)
    (hn : n.natAbs < 2 ^ 53) : v.toNumber = .int n := by
  cases h with
  | null => rfl
  | bool b => rfl
  | int n => rfl
  | blank h =>
    change Number.ofText _ = _
    rw [Number.ofText, h]
    rfl
  | spelled h => exact Number.ofText_of_spells h hn

namespace Storage

/-- A default that stands for an integer seeds it. -/
theorem seedOf_eq {default : Value} {d : Int} (h : default.Denotes d) (hd : d.natAbs < 2 ^ 53) :
    seedOf default = .int d := by
  rw [seedOf, Value.toNumber_of_denotes h hd]
  rfl

/-- Text that spells an integer other than zero is the amount. -/
theorem amountOf_eq {text : String} {n : Int} (h : Number.Spells text n) (hzero : n ≠ 0)
    (hn : n.natAbs < 2 ^ 53) : amountOf text = .ok (.int n) := by
  have hnumber : (Value.text text).toNumber = .int n := Number.ofText_of_spells h hn
  simp only [amountOf, hnumber, Number.truthy_int hzero hn]
  rfl

end Storage

/-! ## What a store holds -/

/-- **A tally**: a key that nodes of a scope count under. -/
structure Tally where
  /-- whose values it is among -/
  scope : StorageScope
  /-- the user it belongs to, where it is among values of users -/
  user : String
  /-- the key -/
  key : String
  /-- without a key, nodes do nothing -/
  named : key ≠ ""

/-- The collection of a scope. -/
def StorageScope.collection : StorageScope → Collection
  | .user => .users
  | .everyone => .globals

namespace Tally

variable (c : Tally)

/-- **What a store holds of the tally.** -/
def held (s : Store) : Option Value :=
  match c.scope with
  | .user => (s.record c.user).get? c.key
  | .everyone => s.globals.get? c.key

/-- Whether the value of a scope, a user and a key is the tally. -/
def Is (scope : StorageScope) (user key : String) : Prop :=
  c.scope = scope ∧ (scope = .user → user = c.user) ∧ key = c.key

variable {c}

/-- A store that is the same but for another place holds the same. -/
theorem held_of_sameBut {scope : StorageScope} {user key : String} {s t : Store}
    (h : ¬ c.Is scope user key) (hsame : Store.SameBut scope user key s t) :
    c.held t = c.held s := by
  unfold held
  cases scope with
  | user =>
    obtain ⟨hglobals, hothers, hrecord⟩ := hsame
    cases hscope : c.scope with
    | everyone => exact congrArg (·.get? c.key) hglobals
    | user =>
      by_cases huser : user = c.user
      · subst huser
        exact hrecord c.key fun hkey => h ⟨hscope, fun _ => rfl, hkey⟩
      · have hrecords : t.record c.user = s.record c.user := congrArg (·.getD []) (hothers _ huser)
        exact congrArg (·.get? c.key) hrecords
  | everyone =>
    obtain ⟨husers, hglobals⟩ := hsame
    cases hscope : c.scope with
    | user =>
      dsimp only
      rw [Store.record, husers, Store.record]
    | everyone =>
      have hother : StorageScope.everyone ≠ .user := by decide
      exact hglobals c.key fun hkey => h ⟨hscope, fun huser => absurd huser hother, hkey⟩

/-- A value written under the tally is what is held. -/
theorem held_setUser (h : c.scope = .user) (s : Store) (v : Value) :
    c.held (s.setUser c.user c.key v) = some v := by
  rw [held, h]
  dsimp only
  rw [Store.setUser, Store.record_withRecord, if_pos rfl, Table.get?_insert, if_pos rfl]

theorem held_setGlobal (h : c.scope = .everyone) (s : Store) (v : Value) :
    c.held (s.setGlobal c.key v) = some v := by
  rw [held, h]
  dsimp only
  rw [Store.setGlobal, Table.get?_insert, if_pos rfl]

end Tally

/-! ## Nodes that count -/

namespace Tally

/-- **A tally of amounts**, the latest first: the default and all of them together, or nothing where
there are none. -/
def total (d : Int) : List Int → Option Value
  | [] => none
  | amounts => some (.int (d + amounts.sum))

variable {c : Tally}

/-- What is held is counted up, or the default where nothing is. -/
theorem counted_total (d a : Int) (amounts : List Int) :
    Store.counted (total d amounts) (.int a) (.number (.int d)) =
      .ok (.int (d + (a :: amounts).sum)) := by
  have hsum : Store.counted (total d amounts) (.int a) (.number (.int d)) =
      .ok (.int (d + amounts.sum + a)) := by
    cases amounts with
    | nil =>
      rw [List.sum_nil, Int.add_zero]
      rfl
    | cons b rest => rfl
  rw [hsum, List.sum_cons, Int.add_comm a, Int.add_assoc]

/-- **Counting up** writes the sum under the tally, and keeps it. -/
theorem exists_of_count {user : String} (huser : c.scope = .user → user = c.user)
    {amount n : Number} {default : Value} {w : World}
    (h : Store.counted (c.held w.store) amount default = .ok n) :
    ∃ store, c.held store = some (.number n) ∧
      Storage.count c.scope user c.key amount default w =
        (World.keep c.scope.collection >>= fun _ => pure n) { w with store } := by
  unfold Storage.count
  rw [held] at h
  cases hscope : c.scope with
  | user =>
    rw [hscope] at h
    obtain rfl := huser hscope
    refine ⟨_, held_setUser hscope w.store (.number n), World.settle_of_ok ?_⟩
    rw [Store.incrUser, h]
  | everyone =>
    rw [hscope] at h
    refine ⟨_, held_setGlobal hscope w.store (.number n), World.settle_of_ok ?_⟩
    rw [Store.incrGlobal, h]

/-- **Either way of counting** adds an amount to what is held. -/
theorem exists_of_perform {p : StorageParams} {user text : String} {d a : Int} {amounts : List Int}
    {w : World} (huser : c.scope = .user → user = c.user) (hdefault : p.default.Denotes d)
    (hd : d.natAbs < 2 ^ 53) (hzero : a ≠ 0) (ha : a.natAbs < 2 ^ 53)
    (hheld : c.held w.store = total d amounts)
    (hway : p.storageType = "incr" ∧ Number.Spells text a ∨
      p.storageType = "decr" ∧ Number.Spells text (-a)) :
    ∃ operation store, Storage.Operation.ofName? p.storageType = some operation ∧
      c.held store = total d (a :: amounts) ∧
      Storage.perform c.scope p user c.key text operation w =
        (World.keep c.scope.collection >>= fun _ => pure (.int (d + (a :: amounts).sum)))
          { w with store } := by
  have hcounted := counted_total d a amounts
  rw [← hheld] at hcounted
  obtain ⟨store, hstore, hcount⟩ := exists_of_count huser hcounted
  have hresult := Act.run_bind_congr hcount fun n => (pure (.number n) : Act World Value)
  rw [Act.bind_assoc] at hresult
  have hseed := Storage.seedOf_eq hdefault hd
  rcases hway with ⟨hname, htext⟩ | ⟨hname, htext⟩
  · have hamount := Storage.amountOf_eq htext hzero ha
    refine ⟨.incr, store, by rw [hname]; rfl, hstore, ?_⟩
    rw [Storage.perform, hseed]
    exact (Act.run_bind_done (Act.run_of_ok hamount w)).trans hresult
  · have hamount := Storage.amountOf_eq htext (neg_ne_zero.mpr hzero) (by rwa [Int.natAbs_neg])
    have hneg : (Number.int (-a)).neg = .int a := congrArg Number.int (neg_neg a)
    refine ⟨.decr, store, by rw [hname]; rfl, hstore, ?_⟩
    rw [Storage.perform, hseed]
    refine (Act.run_bind_done (Act.run_of_ok hamount w)).trans ?_
    rw [hneg]
    exact hresult

end Tally

/-! ## Walks side by side -/

/-- **Walks under way**: the world that they share, and the variables of each. -/
structure Stage where
  /-- the world -/
  world : World
  /-- the variables of each walk -/
  contexts : Nat → Table Value

/-- The world as a walk sees it. -/
def Stage.seen (s : Stage) (walk : Nat) : World := { s.world with context := s.contexts walk }

/-- **A turn**: a node that one of the walks executes. -/
structure Turn where
  /-- the walk -/
  walk : Nat
  /-- the scene that it plays in -/
  scene : Scene
  /-- the node -/
  node : Node

/-- Where a collection can be kept, a variable is written behind it. -/
theorem World.keep_assign (c : Collection) (name : String) (v : Value) (w : World) :
    ((keep c >>= fun _ => assign name v) w).2.store = w.store ∧
      (((keep c >>= fun _ => assign name v) w).2.CanKeep c →
        ((keep c >>= fun _ => assign name v) w).2.context.get? name = some v) := by
  have hsame := keep_same c w
  rcases hkeep : keep c w with ⟨ending, kept⟩
  rw [hkeep] at hsame
  -- an act that did not end well kept nothing that can be kept
  have hfailed (h : kept.CanKeep c) : ending = .done () := by
    have hdone : (keep c w).1 = .done () := by
      refine keep_done fun hdurable => ?_
      rw [← hsame.1]
      exact h (hsame.2.trans hdurable)
    rwa [hkeep] at hdone
  cases ending with
  | done u =>
    rw [Act.run_bind_done hkeep]
    refine ⟨hsame.1, fun _ => ?_⟩
    change (kept.context.insert name v).get? name = some v
    rw [Table.get?_insert, if_pos rfl]
  | failed f =>
    rw [Act.run_bind_failed hkeep]
    exact ⟨hsame.1, fun h => nomatch hfailed h⟩
  | hung =>
    rw [Act.run_bind_hung hkeep]
    exact ⟨hsame.1, fun h => nomatch hfailed h⟩

namespace Storage

variable {p : StorageParams} {o : Occasion} {w u v : World} {key text : String}

/-- **A storing node past its templates.** -/
theorem run_of_rendered {scope : StorageScope} {operation : Operation} (hnamed : key ≠ "")
    (hkey : Template.render o p.key w = (.done key, u))
    (hvalue : Template.render o p.value u = (.done text, v))
    (hoperation : Operation.ofName? p.storageType = some operation) :
    run scope p o w = (perform scope p o.event.userId key text operation >>=
      fun result => World.assign (resultVar scope p) result) v := by
  unfold run
  rw [Act.run_bind_done hkey, if_neg hnamed, Act.run_bind_done hvalue, hoperation]

/-- What its templates are rendered as is not stored yet. -/
theorem store_of_rendered (hkey : Template.render o p.key w = (.done key, u))
    (hvalue : Template.render o p.value u = (.done text, v)) : v.store = w.store := by
  have hinward := Conduct.permits_leavingStore.inward o.event.userId
  have hu := (hinward.render p.key w).1
  have hv := (hinward.render p.value u).1
  rw [hkey] at hu
  rw [hvalue] at hv
  exact hv.trans hu

end Storage

namespace Turn

/-- **What a turn leaves**: a changed world, and the variables of its walk. -/
def after (t : Turn) (s : Stage) : Stage :=
  let world := (Walk.performIn t.scene t.node (s.seen t.walk)).2
  { world, contexts := fun walk => if walk = t.walk then world.context else s.contexts walk }

/-- **Whether a turn is about a tally**: its node stores values, and this one among them. -/
def IsAbout (t : Turn) (c : Tally) (s : Stage) : Prop :=
  ∃ scope p key, t.node.params = .storage scope p ∧
    (Template.render t.scene.occasion p.key (s.seen t.walk)).1 = .done key ∧
    c.Is scope t.scene.occasion.event.userId key

/-- **Whether a turn counts an amount under a tally**, with a default: its node counts up, or counts
the opposite down. -/
structure Counts (t : Turn) (c : Tally) (d a : Int) (p : StorageParams) (s : Stage) : Prop where
  /-- its node stores values of the scope -/
  node : t.node.params = .storage c.scope p
  /-- on behalf of the user, where there is one -/
  user : c.scope = .user → t.scene.occasion.event.userId = c.user
  /-- with the default -/
  default : p.default.Denotes d
  /-- its key and its value are rendered as the key of the tally and the amount -/
  rendered : ∃ u text v, Template.render t.scene.occasion p.key (s.seen t.walk) = (.done c.key, u) ∧
    Template.render t.scene.occasion p.value u = (.done text, v) ∧
    (p.storageType = "incr" ∧ Number.Spells text a ∨
      p.storageType = "decr" ∧ Number.Spells text (-a))
  /-- the amount is not zero -/
  nonzero : a ≠ 0
  /-- and a double holds it -/
  small : a.natAbs < 2 ^ 53

variable {t : Turn} {c : Tally} {s : Stage}

/-- The turn of a storing node. -/
theorem after_storage {scope : StorageScope} {p : StorageParams}
    (hp : t.node.params = .storage scope p) :
    (t.after s).world = (Storage.run scope p t.scene.occasion (s.seen t.walk)).2 := by
  rw [after, Walk.performIn_other _ (by rw [hp]; rfl), Act.run_bind_return, Node.run, hp]

theorem contexts_after (t : Turn) (s : Stage) :
    (t.after s).contexts t.walk = (t.after s).world.context := if_pos rfl

/-- **A node that is about something else leaves the tally alone.** -/
theorem spares_after (h : ¬ t.IsAbout c s) :
    c.held (t.after s).world.store = c.held s.world.store := by
  by_cases hstores : ∃ scope p, t.node.params = .storage scope p
  · obtain ⟨scope, p, hp⟩ := hstores
    rw [after_storage hp]
    rcases Storage.run_sameBut scope p t.scene.occasion (s.seen t.walk) with hsame | hplace
    · rw [hsame]
      rfl
    · obtain ⟨key, -, hkey, hsame⟩ := hplace
      exact Tally.held_of_sameBut (fun hc => h ⟨scope, p, key, hp, hkey, hc⟩) hsame
  · have hother : ∀ scope p, t.node.params ≠ .storage scope p :=
      fun scope p hp => hstores ⟨scope, p, hp⟩
    exact congrArg c.held (Node.performIn_store hother (s.seen t.walk)).1

variable {d a : Int} {p : StorageParams} {amounts : List Int}

/-- **A node that counts** leaves the sum with its amount under the tally, and in its result
variable unless it failed to write the sum to disk. -/
theorem Counts.held_after (h : t.Counts c d a p s) (hd : d.natAbs < 2 ^ 53)
    (hheld : c.held s.world.store = Tally.total d amounts) :
    c.held (t.after s).world.store = Tally.total d (a :: amounts) ∧
      ((t.after s).world.CanKeep c.scope.collection →
        ((t.after s).contexts t.walk).get? (Storage.resultVar c.scope p) =
          Tally.total d (a :: amounts)) := by
  obtain ⟨u, text, v, hkey, hvalue, hway⟩ := h.rendered
  have hsame : v.store = s.world.store :=
    Storage.store_of_rendered (w := s.seen t.walk) hkey hvalue
  obtain ⟨operation, store, hname, hstore, hperform⟩ := Tally.exists_of_perform h.user h.default hd
    h.nonzero h.small (hsame ▸ hheld) hway
  have hrun : Storage.run c.scope p t.scene.occasion (s.seen t.walk) =
      (World.keep c.scope.collection >>= fun _ => World.assign (Storage.resultVar c.scope p)
        (.int (d + (a :: amounts).sum))) { v with store } := by
    rw [Storage.run_of_rendered c.named hkey hvalue hname]
    refine (Act.run_bind_congr hperform _).trans ?_
    rw [Act.bind_assoc]
    rfl
  obtain ⟨hsame, hresult⟩ := World.keep_assign c.scope.collection (Storage.resultVar c.scope p)
    (.int (d + (a :: amounts).sum)) { v with store }
  rw [contexts_after, after_storage h.node, hrun, hsame]
  exact ⟨hstore, hresult⟩

end Turn

/-! ## All that happens to a tally -/

namespace Tally

variable {c : Tally} {d a : Int} {amounts : List Int} {first s : Stage} {t : Turn}
  {p : StorageParams}

/-- **What may happen to a tally** from a stage on, and the amounts that were counted, the latest
first: turns of any walks, in any order, that count under it or are about something else, and
anything that leaves it alone. -/
inductive History (c : Tally) (d : Int) (first : Stage) : List Int → Stage → Prop where
  /-- nothing has happened yet -/
  | start : History c d first [] first
  /-- a node counted -/
  | count {amounts : List Int} {s : Stage} {a : Int} {p : StorageParams} {t : Turn}
    (before : History c d first amounts s) (h : t.Counts c d a p s) :
    History c d first (a :: amounts) (t.after s)
  /-- a node did something else -/
  | spare {amounts : List Int} {s : Stage} {t : Turn} (before : History c d first amounts s)
    (h : ¬ t.IsAbout c s) : History c d first amounts (t.after s)
  /-- something else went on, such as a part of the work of a node that waits -/
  | elsewhere {amounts : List Int} {s s' : Stage} (before : History c d first amounts s)
    (h : c.held s'.world.store = c.held s.world.store) : History c d first amounts s'

/-- **No amount is lost, and the default is counted once**: what is held is the default and all
amounts together. -/
theorem held_history (h : History c d first amounts s) (habsent : c.held first.world.store = none)
    (hd : d.natAbs < 2 ^ 53) : c.held s.world.store = total d amounts := by
  induction h with
  | start => exact habsent
  | count _ hcounts ih => exact (hcounts.held_after hd ih).1
  | spare _ hspares ih => exact (Turn.spares_after hspares).trans ih
  | elsewhere _ hsame ih => exact hsame.trans ih

/-- **Counters are exact.** Whatever else walks do side by side, after a node has counted, what is
held is the default and all amounts so far together, however large and whatever the sums before. So
is the result variable of the node, if the values can be kept: in memory they always can, and on
disk as long as each has a written form. -/
theorem counts_exactly (before : History c d first amounts s)
    (habsent : c.held first.world.store = none) (hd : d.natAbs < 2 ^ 53)
    (h : t.Counts c d a p s) :
    c.held (t.after s).world.store = some (.int (d + (a :: amounts).sum)) ∧
      ((t.after s).world.CanKeep c.scope.collection →
        ((t.after s).contexts t.walk).get? (Storage.resultVar c.scope p) =
          some (.int (d + (a :: amounts).sum))) :=
  h.held_after hd (held_history before habsent hd)

end Tally

/-! ## A kitty -/

namespace Kitty

/-- **A kitty for everybody**, which begins with a debt of two. -/
def tally : Tally := ⟨.everyone, "", "kitty", by decide⟩

/-- What a node does with the kitty, and where it leaves the sum. -/
def params (way amount : String) : StorageParams :=
  ⟨way, "kitty", amount, "sum", .text "-2", []⟩

/-- A turn of a walk that does something with the kitty. -/
def turn (walk : Nat) (way amount : String) : Turn where
  walk
  scene := Loop.scene Loop.willing ⟨64, 5⟩
  node := ⟨"kitty", "global_storage", Node.origin, Node.origin, [],
    .storage .everyone (params way amount)⟩

/-- Walks over a store that is kept on disk, and has other values for everybody. -/
def stage (globals : Table Value) : Stage where
  world := { Loop.world with store := ⟨[], globals⟩, durable := true }
  contexts _ := []

/-- The least number with more digits than can be written. -/
def hoard : Nat := Nat.pow 10 Number.digitLimit

theorem spells_debt : Number.Spells "-2" (-2) :=
  @Number.Spells.minus "-2" ['2'] (by decide) (List.forall_mem_singleton.mpr (by decide))
    (by decide)

theorem spells_two : Number.Spells "2" 2 :=
  @Number.Spells.plain "2" ['2'] (by decide) (List.forall_mem_singleton.mpr (by decide))
    (by decide)

theorem spells_three : Number.Spells " 3" 3 :=
  @Number.Spells.plain " 3" ['3'] (by decide) (List.forall_mem_singleton.mpr (by decide))
    (by decide)

theorem counts_turn {walk : Nat} {way amount : String} {a : Int}
    (hway : way = "incr" ∧ Number.Spells amount a ∨ way = "decr" ∧ Number.Spells amount (-a))
    (hplain : amount.toList.contains '\x7b' = false) (hzero : a ≠ 0) (ha : a.natAbs < 2 ^ 53)
    (s : Stage) : (turn walk way amount).Counts tally (-2) a (params way amount) s where
  node := rfl
  user := nofun
  default := .spelled spells_debt
  rendered :=
    have hkey : "kitty".toList.contains '\x7b' = false := by decide
    ⟨_, amount, _, Template.render_plain hkey _ _, Template.render_plain hplain _ _, hway⟩
  nonzero := hzero
  small := ha

/-- Two are paid in by one walk. -/
theorem counts_two (s : Stage) :
    (turn 0 "incr" "2").Counts tally (-2) 2 (params "incr" "2") s :=
  counts_turn (.inl ⟨rfl, spells_two⟩) (by decide) (by decide) (by decide) s

/-- Three are taken out by another. -/
theorem counts_three (s : Stage) :
    (turn 1 "decr" " 3").Counts tally (-2) (-3) (params "decr" " 3") s :=
  counts_turn (.inr ⟨rfl, spells_three⟩) (by decide) (by decide) (by decide) s

theorem held_stage (n : Int) : tally.held (stage [("hoard", .int n)]).world.store = none := rfl

end Kitty

/-- From a debt of two, two paid in and three taken out leave a debt of three, by way of zero. -/
theorem Tally.counts_exactly_kitty :
    let first := Kitty.stage []
    let last := (Kitty.turn 1 "decr" " 3").after ((Kitty.turn 0 "incr" "2").after first)
    Kitty.tally.held first.world.store = none ∧
      Tally.History Kitty.tally (-2) first [2] ((Kitty.turn 0 "incr" "2").after first) ∧
      (Kitty.turn 1 "decr" " 3").Counts Kitty.tally (-2) (-3) (Kitty.params "decr" " 3")
        ((Kitty.turn 0 "incr" "2").after first) ∧
      Kitty.tally.held last.world.store = some (.int (-3)) ∧
      (last.contexts 1).get? "sum" = some (.int (-3)) := by
  intro first last
  have habsent : Kitty.tally.held first.world.store = none := rfl
  have before : Tally.History Kitty.tally (-2) first [2] ((Kitty.turn 0 "incr" "2").after first) :=
    .count .start (Kitty.counts_two first)
  have hcounts := Kitty.counts_three ((Kitty.turn 0 "incr" "2").after first)
  obtain ⟨hheld, hresult⟩ := counts_exactly before habsent (by decide) hcounts
  have hkeeps : last.world.CanKeep .globals := by decide +kernel
  exact ⟨habsent, before, hcounts, hheld, hresult hkeeps⟩

/-- **Beside a number that cannot be written, a result is lost**: two are paid in, but on disk the
node fails before it leaves the sum. -/
theorem Tally.result_lost :
    let first := Kitty.stage [("hoard", .int Kitty.hoard)]
    Kitty.tally.held first.world.store = none ∧
      (Kitty.turn 0 "incr" "2").Counts Kitty.tally (-2) 2 (Kitty.params "incr" "2") first ∧
      Kitty.tally.held ((Kitty.turn 0 "incr" "2").after first).world.store = some (.int 0) ∧
      (((Kitty.turn 0 "incr" "2").after first).contexts 0).get? "sum" = none := by
  intro first
  have habsent : Kitty.tally.held first.world.store = total (-2) [] := Kitty.held_stage _
  have hheld := (Kitty.counts_two first).held_after (by decide) habsent
  exact ⟨habsent, Kitty.counts_two first, hheld.1, by decide +kernel⟩

end ChatFlow
