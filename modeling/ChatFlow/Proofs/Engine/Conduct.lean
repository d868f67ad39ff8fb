import ChatFlow.Proofs.Engine.Discipline

/-!
# Conduct

A conduct says which changes of the world are allowed, and whether an act may hang. It is closed
under doing one thing after another, so an act keeps to it as soon as its parts do. A conduct that
allows what nodes are made of is a discipline of nodes, and is kept by every node of every workflow.

* `Act.Keeps` — an act keeps to a conduct;
* `Conduct.Tolerates` — a conduct permits what nodes are made of, variables, stored values and calls
  aside;
* `Conduct.Permits` — and variables;
* `Conduct.Allows` — and calls to a platform;
* `Conduct.Frees` — and stored values as well;
* `Conduct.Allows.discipline` — **what it takes to be a discipline of nodes**: the user may write its
  own stored values.
-/

namespace ChatFlow

/-- **A conduct.** -/
structure Conduct where
  /-- whether one world may become another -/
  leads : World → World → Prop
  /-- whether an act may hang -/
  hangs : Prop
  /-- nothing need be done -/
  refl (w : World) : leads w w
  /-- one thing may be done after another -/
  trans {u v w : World} : leads u v → leads v w → leads u w

/-- **An act keeps to a conduct**, however it ends. -/
def Act.Keeps (c : Conduct) {α : Type} (act : Act World α) : Prop :=
  ∀ w, c.leads w (act w).2 ∧ ((act w).1 = .hung → c.hangs)

namespace Act.Keeps

variable {c : Conduct} {α β : Type}

theorem pure (a : α) : (Pure.pure a : Act World α).Keeps c :=
  fun w => ⟨c.refl w, nofun⟩

theorem fail (f : Fault) : (Act.fail f : Act World α).Keeps c :=
  fun w => ⟨c.refl w, nofun⟩

theorem look : (Act.look : Act World World).Keeps c :=
  fun w => ⟨c.refl w, nofun⟩

theorem see (view : World → α) : (Act.see view).Keeps c :=
  fun w => ⟨c.refl w, nofun⟩

theorem of (r : Except Fault α) : (Act.of r : Act World α).Keeps c := by
  cases r with
  | ok a => exact pure a
  | error f => exact fail f

theorem step {f : World → α × World} (h : ∀ w, c.leads w (f w).2) : (Act.step f).Keeps c :=
  fun w => ⟨h w, nofun⟩

theorem change {f : World → World} (h : ∀ w, c.leads w (f w)) : (Act.change f).Keeps c :=
  fun w => ⟨h w, nofun⟩

theorem bind {act : Act World α} {next : α → Act World β} (h : act.Keeps c)
    (hnext : ∀ a, (next a).Keeps c) : (act >>= next).Keeps c := by
  intro w
  have hw := h w
  rw [Act.run_bind]
  rcases ha : act w with ⟨a | f | _, u⟩ <;> rw [ha] at hw
  · exact ⟨c.trans hw.1 (hnext a u).1, (hnext a u).2⟩
  · exact ⟨hw.1, nofun⟩
  · exact ⟨hw.1, fun _ => hw.2 rfl⟩

theorem attempt {act : Act World α} (h : act.Keeps c) : act.attempt.Keeps c := by
  intro w
  have hw := h w
  unfold Act.attempt
  rcases ha : act w with ⟨a | f | _, u⟩ <;> rw [ha] at hw
  · exact ⟨hw.1, nofun⟩
  · exact ⟨hw.1, nofun⟩
  · exact ⟨hw.1, fun _ => hw.2 rfl⟩

/-- A call keeps to a conduct that allows it, and to hang where the platform does. -/
theorem call {platform : Platform} {call : Call}
    (hcalls : ∀ w : World, c.leads w { w with calls := w.calls ++ [call] })
    (hhangs : ∀ before, platform.respond before call = .hangs → c.hangs) :
    (World.call platform call).Keeps c := by
  intro w
  unfold World.call
  split
  · exact ⟨hcalls w, nofun⟩
  · exact ⟨hcalls w, nofun⟩
  · next hr => exact ⟨hcalls w, fun _ => hhangs _ hr⟩

end Act.Keeps

/-- **A conduct that tolerates what nodes do in passing**: everything but writes to variables and to
stored values, and calls to the platform. -/
structure Conduct.Tolerates (c : Conduct) : Prop where
  /-- chance is taken -/
  dice (w : World) (dice : Dice) : c.leads w { w with dice }
  /-- patterns are looked up -/
  patterns (w : World) (patterns : Pattern.Cache) : c.leads w { w with patterns }
  /-- the web is called -/
  network (w : World) (network : Web.Network) (exchanges : List Web.Exchange) :
    c.leads w { w with network, exchanges }
  /-- pauses are made -/
  sleeps (w : World) (seconds : Number) : c.leads w { w with sleeps := w.sleeps ++ [seconds] }
  /-- notes are written -/
  log (w : World) (notes : List Note) : c.leads w { w with log := w.log ++ notes }
  /-- stored values are kept on disk -/
  disk (w : World) (collection : Collection) :
    c.leads w { w with disk := (w.store.save collection w.disk).2 }

/-- **A conduct that permits what nodes are made of**, stored values and calls to the platform
aside. -/
structure Conduct.Permits (c : Conduct) : Prop extends c.Tolerates where
  /-- variables are written -/
  context (w : World) (context : Table Value) : c.leads w { w with context }

/-- **A conduct that allows what nodes are made of** on a platform, stored values aside. -/
structure Conduct.Allows (c : Conduct) (platform : Platform) : Prop extends c.Permits where
  /-- the platform is called -/
  calls (w : World) (call : Call) : c.leads w { w with calls := w.calls ++ [call] }
  /-- the platform may hang -/
  hangs (before : List Call) (call : Call) : platform.respond before call = .hangs → c.hangs

/-- **A conduct that leaves nodes free** on a platform: it allows each of the changes that they are
made of. -/
structure Conduct.Frees (c : Conduct) (platform : Platform) : Prop extends c.Allows platform where
  /-- stored values are written -/
  store (w : World) (store : Store) : c.leads w { w with store }

/-- **What is kept to**, as it is said of acts. -/
abbrev Conduct.Kept (c : Conduct) (α : Type) (act : Act World α) : Prop := act.Keeps c

namespace Conduct.Tolerates

open Act.Keeps (pure fail look of step change bind attempt)

variable {c : Conduct} (h : c.Tolerates)

include h

/-! ## The world -/

theorem notes (ns : List Note) : (World.notes ns).Keeps c := change fun w => h.log w ns

theorem roll : World.roll.Keeps c := step fun w => h.dice w _

theorem die (sides : Nat) : (World.die sides).Keeps c := step fun w => h.dice w _

theorem choose (items : List String) (default : String) : (World.choose items default).Keeps c :=
  step fun w => h.dice w _

theorem sleep (seconds : Number) : (World.sleep seconds).Keeps c :=
  change fun w => h.sleeps w seconds

theorem pattern? (text : String) : (World.pattern? text).Keeps c := by
  intro w
  unfold World.pattern?
  split
  · exact ⟨h.patterns w _, nofun⟩
  · exact ⟨c.refl w, nofun⟩

/-! ## Stored values -/

theorem keep (collection : Collection) : (World.keep collection).Keeps c := by
  intro w
  unfold World.keep
  split
  · split
    · next ns disk hsave =>
      have hdisk := h.disk w collection
      rw [hsave] at hdisk
      exact ⟨c.trans hdisk (h.log { w with disk } ns), nofun⟩
    · next f disk hsave =>
      have hdisk := h.disk w collection
      rw [hsave] at hdisk
      exact ⟨hdisk, nofun⟩
  · exact ⟨c.refl w, nofun⟩

theorem write {α : Type} (collection : Collection) {f : Store → α × Store}
    (hf : ∀ w : World, c.leads w { w with store := (f w.store).2 }) :
    (World.write collection f).Keeps c :=
  bind (step hf) fun _ => bind (h.keep collection) fun _ => pure _

theorem settle (collection : Collection) {f : Store → Except Fault Number × Store}
    (hf : ∀ w : World, c.leads w { w with store := (f w.store).2 }) :
    (World.settle collection f).Keeps c :=
  bind (step hf) fun _ => bind (of _) fun _ => bind (h.keep collection) fun _ => pure _

theorem discard (collection : Collection) {f : Store → Bool × Store}
    (hf : ∀ w : World, c.leads w { w with store := (f w.store).2 }) :
    (World.discard collection f).Keeps c := by
  refine bind (step hf) fun found => ?_
  cases found with
  | true => exact bind (h.keep collection) fun _ => pure _
  | false => exact pure _

/-! ## Disciplines -/

/-- **Every conduct that tolerates what nodes do in passing** is a discipline of nodes, calls to the
platform and all writes aside. -/
theorem inward (user : String) : Inward c.Kept user where
  pure a := .pure a
  fail f := .fail f
  bind := .bind
  attempt := .attempt
  look _ hnext := .bind .look hnext
  notes := h.notes
  roll := h.roll
  die := h.die
  choose := h.choose
  sleep := h.sleep
  pattern? := h.pattern?
  opened _ := change fun w => h.network w _ _
  client := .see _
  send _ := step fun w => h.network w _ _

/-- A conduct that allows a value of the user to be written says so of each way to write it. -/
theorem owning {user key : String} (hown : ∀ (w : World) (record : Table Value),
    (∀ name, key ≠ name → record.get? name = (w.store.record user).get? name) →
      c.leads w { w with store := w.store.withRecord user record }) : Owning c.Kept user key where
  setUser v := h.write _ fun w => hown w _ fun _ hname => Table.get?_insert_of_ne _ hname _
  incrUser amount default := by
    refine h.settle _ fun w => ?_
    unfold Store.incrUser
    split
    · exact hown w _ fun _ hname => Table.get?_insert_of_ne _ hname _
    · exact hown w _ fun _ _ => rfl
  deleteUser := by
    refine h.discard _ fun w => ?_
    unfold Store.deleteUser
    split
    · exact hown w _ fun _ hname => Table.get?_erase_of_ne _ hname
    · exact c.refl w

/-- A conduct that allows a value for everybody to be written says so of each way to write it. -/
theorem sharing {key : String} (hall : ∀ (w : World) (globals : Table Value),
    (∀ name, key ≠ name → globals.get? name = w.store.globals.get? name) →
      c.leads w { w with store := { w.store with globals } }) : Sharing c.Kept key where
  setGlobal v := h.write _ fun w => hall w _ fun _ hname => Table.get?_insert_of_ne _ hname _
  incrGlobal amount default := by
    refine h.settle _ fun w => ?_
    unfold Store.incrGlobal
    split
    · exact hall w _ fun _ hname => Table.get?_insert_of_ne _ hname _
    · exact c.refl w
  deleteGlobal := by
    refine h.discard _ fun w => ?_
    unfold Store.deleteGlobal
    split
    · exact hall w _ fun _ hname => Table.get?_erase_of_ne _ hname
    · exact c.refl w

omit h in
/-- A ranking only looks, and writes its variables. -/
theorem ranking (hvars : Assigning c.Kept Storage.rankingVariables) (p : LeaderboardParams)
    (o : Occasion) : (Storage.leaderboard p o).Keeps c := by
  have hvar {name : String} (hname : name ∈ Storage.rankingVariables) (v : Value) :
      (World.assign name v).Keeps c := hvars name hname v
  refine bind (of _) fun limit => bind look fun w => ?_
  split
  · exact bind (of _) fun _ => bind (hvar (by decide) _) fun _ => hvar (by decide) _
  · exact bind (hvar (by decide) _) fun _ => bind (hvar (by decide) _) fun _ => hvar (by decide) _
  · exact hvar (by decide) _
  · exact pure _

/-! ## Nodes -/

section

variable {scene : Scene} (hcall : ∀ call, (World.call scene.surface.platform call).Keeps c)

include hcall

theorem ask (r : ChatRequest) : (scene.ask r).Keeps c := (h.inward "").ask hcall r

/-- **A conduct that tolerates what nodes do in passing, and calls to the platform**, is kept to by
every node whose variables may be written, and whose stored value may. -/
theorem run {node : Node} (hvars : Assigning c.Kept node.declares)
    (hown : ∀ p, node.params = .storage .user p →
      ∀ key, Owning c.Kept scene.occasion.event.userId key)
    (hshare : ∀ p, node.params = .storage .everyone p → ∀ key, Sharing c.Kept key) :
    (Node.run scene node).Keeps c := by
  have hmanners : Manners c.Kept scene := ⟨h.inward _, fun {r} _ => h.ask hcall r⟩
  refine hmanners.run hvars (fun _ => h.ask hcall) hown hshare fun p hp => ranking ?_ p _
  rwa [Node.declares, hp] at hvars

end

end Conduct.Tolerates

namespace Conduct.Permits

variable {c : Conduct} (h : c.Permits)

include h

theorem assign (name : String) (v : Value) : (World.assign name v).Keeps c :=
  .change fun w => h.context w _

/-- All variables may be written. -/
theorem assigning (names : List String) : Assigning c.Kept names := fun name _ v => h.assign name v

/-- A ranking only looks, and writes variables. -/
theorem leaderboard (p : LeaderboardParams) (o : Occasion) : (Storage.leaderboard p o).Keeps c :=
  Tolerates.ranking (h.assigning _) p o

end Conduct.Permits

namespace Conduct.Allows

variable {c : Conduct} {platform : Platform} (h : c.Allows platform)

include h

theorem call (call : Call) : (World.call platform call).Keeps c :=
  .call (h.calls · call) (h.hangs · call)

/-- **A conduct that allows the user to write its own record** is a discipline of nodes. -/
theorem discipline {user : String} (hown : ∀ (w : World) (record : Table Value),
    c.leads w { w with store := w.store.withRecord user record }) :
    Discipline c.Kept user platform where
  toInward := h.inward user
  assign := h.assign
  own _ := h.owning fun w record _ => hown w record
  call := h.call

end Conduct.Allows

end ChatFlow
