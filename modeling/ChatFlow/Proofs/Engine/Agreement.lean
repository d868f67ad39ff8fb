import ChatFlow.Proofs.Acts
import ChatFlow.Proofs.Engine.Conduct
import ChatFlow.Proofs.Store.Keeping
import ChatFlow.Proofs.Tables

/-!
# Two runs at once

An act agrees with itself on two states if it ends the same way on both, and leaves two states that
belong together as the first two did.

* `Act.Agrees` — agreement, closed under the ways in which acts are put together;
* `Act.Agrees.of_keeps` — what a conduct says of one run, said of a run and itself;
* `Store.Paired`, `World.Paired` — two stores, and two worlds, that read the same to a user;
* `Store.Respects` — a step of the store makes the same of both;
* `World.same_discipline` — **agreement on worlds that read the same is a discipline of nodes**.
-/

namespace ChatFlow

/-- **An act agrees with itself** on related states: it ends the same way, in related states. -/
def Act.Agrees {σ α : Type} (R : σ → σ → Prop) (act : Act σ α) : Prop :=
  ∀ s t, R s t → (act s).1 = (act t).1 ∧ R (act s).2 (act t).2

namespace Act.Agrees

variable {σ α β : Type} {R : σ → σ → Prop}

theorem pure (a : α) : (Pure.pure a : Act σ α).Agrees R := fun _ _ h => ⟨rfl, h⟩

theorem fail (f : Fault) : (Act.fail f : Act σ α).Agrees R := fun _ _ h => ⟨rfl, h⟩

theorem change {f : σ → σ} (hf : ∀ s t, R s t → R (f s) (f t)) : (Act.change f).Agrees R :=
  fun s t h => ⟨rfl, hf s t h⟩

theorem bind {act : Act σ α} {next : α → Act σ β} (ha : act.Agrees R)
    (hnext : ∀ a, (next a).Agrees R) : (act >>= next).Agrees R := by
  intro s t h
  obtain ⟨hending, hstate⟩ := ha s t h
  rw [Act.run_bind, Act.run_bind]
  rcases hs : act s with ⟨a | f | _, u⟩ <;> rcases ht : act t with ⟨b | g | _, v⟩ <;>
    rw [hs, ht] at hending hstate <;> cases hending
  · exact hnext a u v hstate
  · exact ⟨rfl, hstate⟩
  · exact ⟨rfl, hstate⟩

theorem attempt {act : Act σ α} (ha : act.Agrees R) : act.attempt.Agrees R := by
  intro s t h
  obtain ⟨hending, hstate⟩ := ha s t h
  unfold Act.attempt
  rcases hs : act s with ⟨a | f | _, u⟩ <;> rcases ht : act t with ⟨b | g | _, v⟩ <;>
    rw [hs, ht] at hending hstate <;> cases hending
  all_goals exact ⟨rfl, hstate⟩

/-- Two states may be looked at as long as nothing is made of their difference. -/
theorem look {next : σ → Act σ α} (hsame : ∀ s t, R s t → next s = next t)
    (hnext : ∀ s, (next s).Agrees R) : (Act.look >>= next).Agrees R := by
  intro s t h
  have hlook : ∀ s : σ, (Act.look >>= next) s = next s s := fun s => Act.run_bind_done rfl
  rw [hlook, hlook, ← hsame s t h]
  exact hnext s s t h

theorem forEach {items : List α} {act : α → Act σ Unit} (h : ∀ x ∈ items, (act x).Agrees R) :
    (Act.forEach items act).Agrees R := by
  induction items with
  | nil => exact pure ()
  | cons x rest ih =>
    rw [Act.forEach_cons]
    exact bind (h x List.mem_cons_self) fun _ => ih fun y hy => h y (List.mem_cons_of_mem x hy)

/-- **What an act leads to from a world**, as an agreement of the act with itself. -/
theorem of_keeps {c : Conduct} {act : Act World α} (h : act.Keeps c) (first : World) :
    act.Agrees fun s t => s = t ∧ c.leads first s := by
  rintro s _ ⟨rfl, hs⟩
  exact ⟨rfl, rfl, c.trans hs (h s).1⟩

end Act.Agrees

/-! ## Stored values side by side -/

namespace Store

/-- The keys of a user, and those for everybody, are distinct. -/
def Keyed (user : String) (s : Store) : Prop := (s.record user).keys.Nodup ∧ s.globals.keys.Nodup

/-- **Two stores read the same to a user.** -/
structure Paired (user : String) (s t : Store) : Prop where
  /-- values of the user -/
  own (key : String) : (s.record user).get? key = (t.record user).get? key
  /-- values for everybody -/
  shared (key : String) : s.globals.get? key = t.globals.get? key
  /-- the keys of the one -/
  left : s.Keyed user
  /-- the keys of the other -/
  right : t.Keyed user

/-- **A step that makes the same of stores that read the same.** -/
def Respects {α : Type} (user : String) (f : Store → α × Store) : Prop :=
  ∀ s t, Paired user s t → (f s).1 = (f t).1 ∧ Paired user (f s).2 (f t).2

variable {user : String} {s t : Store}

theorem Paired.withRecord (h : Paired user s t) {r r' : Table Value}
    (hr : ∀ key, r.get? key = r'.get? key) (hn : r.keys.Nodup) (hn' : r'.keys.Nodup) :
    Paired user (s.withRecord user r) (t.withRecord user r') where
  own key := by rw [record_withRecord, record_withRecord, if_pos rfl, if_pos rfl, hr]
  shared := h.shared
  left := ⟨by rwa [record_withRecord, if_pos rfl], h.left.2⟩
  right := ⟨by rwa [record_withRecord, if_pos rfl], h.right.2⟩

theorem Paired.withGlobals (h : Paired user s t) {g g' : Table Value}
    (hg : ∀ key, g.get? key = g'.get? key) (hn : g.keys.Nodup) (hn' : g'.keys.Nodup) :
    Paired user { s with globals := g } { t with globals := g' } where
  own := h.own
  shared := hg
  left := ⟨h.left.1, hn⟩
  right := ⟨h.right.1, hn'⟩

theorem Paired.setUser (h : Paired user s t) (key : String) (v : Value) :
    Paired user (s.setUser user key v) (t.setUser user key v) :=
  h.withRecord (fun name => by rw [Table.get?_insert, Table.get?_insert, h.own])
    (Table.keys_nodup_insert h.left.1 key v) (Table.keys_nodup_insert h.right.1 key v)

theorem Paired.setGlobal (h : Paired user s t) (key : String) (v : Value) :
    Paired user (s.setGlobal key v) (t.setGlobal key v) :=
  h.withGlobals (fun name => by rw [Table.get?_insert, Table.get?_insert, h.shared])
    (Table.keys_nodup_insert h.left.2 key v) (Table.keys_nodup_insert h.right.2 key v)

theorem respects_incrUser (key : String) (amount : Number) (default : Value) :
    Respects user fun s => s.incrUser user key amount default := by
  intro s t h
  dsimp only
  unfold Store.incrUser
  rw [h.own]
  split
  · exact ⟨rfl, h.setUser key _⟩
  · exact ⟨rfl, h.withRecord h.own h.left.1 h.right.1⟩

theorem respects_deleteUser (key : String) : Respects user fun s => s.deleteUser user key := by
  intro s t h
  dsimp only
  unfold Store.deleteUser
  rw [Table.contains_congr (h.own key)]
  split
  · refine ⟨rfl, h.withRecord (fun name => ?_) (Table.keys_nodup_erase h.left.1 key)
      (Table.keys_nodup_erase h.right.1 key)⟩
    rw [Table.get?_erase h.left.1, Table.get?_erase h.right.1, h.own]
  · exact ⟨rfl, h⟩

theorem respects_incrGlobal (key : String) (amount : Number) (default : Value) :
    Respects user fun s => s.incrGlobal key amount default := by
  intro s t h
  dsimp only
  unfold Store.incrGlobal
  rw [h.shared]
  split
  · exact ⟨rfl, h.setGlobal key _⟩
  · exact ⟨rfl, h⟩

theorem respects_deleteGlobal (key : String) : Respects user fun s => s.deleteGlobal key := by
  intro s t h
  dsimp only
  unfold Store.deleteGlobal
  rw [Table.contains_congr (h.shared key)]
  split
  · refine ⟨rfl, h.withGlobals (fun name => ?_) (Table.keys_nodup_erase h.left.2 key)
      (Table.keys_nodup_erase h.right.2 key)⟩
    rw [Table.get?_erase h.left.2, Table.get?_erase h.right.2, h.shared]
  · exact ⟨rfl, h⟩

end Store

/-! ## Worlds side by side -/

namespace World

/-- **Two worlds with stores in memory that read the same to a user**, and nothing else apart. -/
structure Paired (user : String) (s t : World) : Prop where
  /-- everything but the store -/
  storeless : s.storeless = t.storeless
  /-- stored values are in memory only -/
  memory : s.durable = false
  /-- the stores -/
  store : Store.Paired user s.store t.store

variable {user : String} {s t w : World}

theorem Paired.alike (h : Paired user s t) : Alike user s t := ⟨h.storeless, h.store.own, h.store.shared⟩

theorem Paired.memory' (h : Paired user s t) : t.durable = false := by
  have hsame : t.storeless.durable = s.storeless.durable := by rw [h.storeless]
  exact hsame.trans h.memory

/-- **Agreement on worlds that read the same**, as it is said of acts. -/
abbrev Same (user : String) (α : Type) (act : Act World α) : Prop := act.Agrees (Paired user)

/-- **An act that does not know the store**, nor whether it is kept, agrees with itself. -/
theorem same_of_blind {α : Type} {act : Act World α}
    (hblind : ∀ w store, act { w with store } = ((act w).1, { (act w).2 with store }))
    (hdurable : ∀ w, (act w).2.durable = w.durable) : Same user α act := by
  intro s t h
  have hkept : ∀ w, (act w).2.store = w.store := fun w =>
    congrArg (fun ending => ending.2.store) (hblind w w.store)
  have hs : act s.storeless = ((act s).1, (act s).2.storeless) := hblind s Store.empty
  have ht : act t.storeless = ((act t).1, (act t).2.storeless) := hblind t Store.empty
  rw [h.storeless, ht] at hs
  obtain ⟨hending, hstate⟩ := Prod.mk.inj hs
  refine ⟨hending.symm, hstate.symm, (hdurable s).trans h.memory, ?_⟩
  rw [hkept, hkept]
  exact h.store

theorem same_pattern? (text : String) : Same user _ (World.pattern? text) := by
  refine same_of_blind (fun w store => ?_) fun w => ?_
  · have hpatterns : ({ w with store } : World).patterns = w.patterns := rfl
    unfold World.pattern?
    rw [hpatterns]
    rcases w.patterns.get text with f | ⟨p, patterns⟩ <;> rfl
  · unfold World.pattern?
    split <;> rfl

theorem same_call (platform : Platform) (c : Call) : Same user _ (World.call platform c) := by
  refine same_of_blind (fun w store => ?_) fun w => ?_
  · have hcalls : ({ w with store } : World).calls = w.calls := rfl
    unfold World.call
    rw [hcalls]
    rcases platform.respond w.calls c with _ | _ | _ <;> rfl
  · unfold World.call
    split <;> rfl

/-! ## Stored values in memory -/

/-- Nothing but the stores is apart after a step of each. -/
theorem Paired.step {α : Type} {f : Store → α × Store} (hf : Store.Respects user f)
    (h : Paired user s t) :
    Paired user { s with store := (f s.store).2 } { t with store := (f t.store).2 } :=
  ⟨h.storeless, h.memory, (hf _ _ h.store).2⟩

theorem same_write {α : Type} (c : Collection) {f : Store → α × Store}
    (hf : Store.Respects user f) : Same user _ (World.write c f) := by
  intro s t h
  rw [run_write h.memory, run_write h.memory']
  exact ⟨congrArg Outcome.done (hf _ _ h.store).1, h.step hf⟩

theorem same_settle (c : Collection) {f : Store → Except Fault Number × Store}
    (hf : Store.Respects user f) : Same user _ (World.settle c f) := by
  intro s t h
  rw [run_settle h.memory, run_settle h.memory', (hf _ _ h.store).1]
  refine ⟨?_, h.step hf⟩
  cases (f t.store).1 <;> rfl

theorem same_discard (c : Collection) {f : Store → Bool × Store}
    (hf : Store.Respects user f) : Same user _ (World.discard c f) := by
  intro s t h
  rw [run_discard h.memory, run_discard h.memory']
  exact ⟨congrArg Outcome.done (hf _ _ h.store).1, h.step hf⟩

/-- **Agreement on worlds that read the same is a discipline of nodes.** -/
theorem same_discipline (user : String) (platform : Platform) :
    Discipline (Same user) user platform where
  pure := .pure
  fail := .fail
  bind := .bind
  attempt := .attempt
  look hsame hnext := .look (fun s t h => hsame s t h.alike) hnext
  notes _ := same_of_blind (fun _ _ => rfl) fun _ => rfl
  assign _ _ := same_of_blind (fun _ _ => rfl) fun _ => rfl
  roll := same_of_blind (fun _ _ => rfl) fun _ => rfl
  die _ := same_of_blind (fun _ _ => rfl) fun _ => rfl
  choose _ _ := same_of_blind (fun _ _ => rfl) fun _ => rfl
  sleep _ := same_of_blind (fun _ _ => rfl) fun _ => rfl
  pattern? := same_pattern?
  opened _ := same_of_blind (fun _ _ => rfl) fun _ => rfl
  client := same_of_blind (fun _ _ => rfl) fun _ => rfl
  send _ := same_of_blind (fun _ _ => rfl) fun _ => rfl
  own key := {
    setUser := fun v => same_write _ fun _ _ h => ⟨rfl, h.setUser key v⟩
    incrUser := fun amount default =>
      same_settle _ (Store.respects_incrUser key amount default)
    deleteUser := same_discard _ (Store.respects_deleteUser key) }
  call := same_call platform

/-- Values for everybody are read by everybody. -/
theorem same_sharing (user key : String) : Sharing (Same user) key where
  setGlobal v := same_write _ fun _ _ h => ⟨rfl, h.setGlobal key v⟩
  incrGlobal amount default := same_settle _ (Store.respects_incrGlobal key amount default)
  deleteGlobal := same_discard _ (Store.respects_deleteGlobal key)

end World

end ChatFlow
