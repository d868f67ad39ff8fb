import ChatFlow.Proofs.Files
import ChatFlow.Proofs.Json.Documents
import ChatFlow.Proofs.Number.Canonical
import ChatFlow.Proofs.Store.Keeping
import ChatFlow.Store.Ranking

/-!
# Stored values across restarts

A store whose values are kept on disk may be opened again at any time. Nothing tells the difference
to a store in memory that is never closed.

* `Store.Exact` — every value that a store holds is told apart by its written form, and each step
  keeps this (`Changes`);
* `Store.HeldBy` — the file of a collection holds it: what is saved is held, and
  `load_of_heldBy` — **what is held is what is loaded**;
* `World.Mirrored` — a world with its values on disk beside one with the same values in memory, and
  `follows_act` — every request is answered alike and leaves the two alike;
* `answers_eq` — **a series of requests is answered the same, wherever the store is opened again**.
-/

namespace ChatFlow

namespace Store

/-! ## Requests -/

/-- **What is asked of a store.** -/
inductive Request where
  /-- a value of a user -/
  | userValue (user key : String) (default : Value)
  /-- a value for everybody -/
  | globalValue (key : String) (default : Value)
  /-- a value of a user written -/
  | setUser (user key : String) (v : Value)
  /-- a value for everybody written -/
  | setGlobal (key : String) (v : Value)
  /-- a value of a user counted up -/
  | incrUser (user key : String) (amount : Number) (default : Value)
  /-- a value for everybody counted up -/
  | incrGlobal (key : String) (amount : Number) (default : Value)
  /-- a value of a user deleted -/
  | deleteUser (user key : String)
  /-- a value for everybody deleted -/
  | deleteGlobal (key : String)
  /-- the first rows of a ranking -/
  | top (key : String) (limit : Int) (ascending : Bool)
  /-- the place of a user in a ranking -/
  | rankOf (user key : String) (ascending : Bool)
  /-- how many users have a key -/
  | countWithKey (key : String)

/-- **What a store answers.** -/
inductive Answer where
  /-- nothing -/
  | nothing
  /-- a value -/
  | value (v : Value)
  /-- a sum -/
  | number (n : Number)
  /-- whether there was something to delete -/
  | found (b : Bool)
  /-- rows of a ranking -/
  | rows (rows : List (String × Number))
  /-- a place in a ranking -/
  | rank (r : Rank)
  /-- how many -/
  | count (n : Nat)

/-- **A request carried out.** -/
def Request.act : Request → Act World Answer
  | .userValue user key default => do return .value (← World.userValue user key default)
  | .globalValue key default => do return .value (← World.globalValue key default)
  | .setUser user key v => do
    World.setUser user key v
    return .nothing
  | .setGlobal key v => do
    World.setGlobal key v
    return .nothing
  | .incrUser user key amount default => do
    return .number (← World.incrUser user key amount default)
  | .incrGlobal key amount default => do
    return .number (← World.incrGlobal key amount default)
  | .deleteUser user key => do return .found (← World.deleteUser user key)
  | .deleteGlobal key => do return .found (← World.deleteGlobal key)
  | .top key limit ascending => Act.see fun w => .rows (w.store.top key limit ascending)
  | .rankOf user key ascending => Act.see fun w => .rank (w.store.rankOf user key ascending)
  | .countWithKey key => Act.see fun w => .count (w.store.countWithKey key)

/-- Whether what is written by a request is told apart by its written form. -/
def Request.Exact : Request → Prop
  | .setUser _ _ v => Json.Exact v
  | .setGlobal _ v => Json.Exact v
  | _ => True

/-- **One step of a series**: a request, or the store opened again. -/
inductive Step where
  /-- a request -/
  | request (r : Request)
  /-- the store opened again -/
  | reopening

/-- A step where values are kept on disk. -/
def Step.onDisk : Step → Act World Answer
  | .request r => r.act
  | .reopening => do
    World.reopen
    return .nothing

/-- A step where values are kept in memory: there is nothing to open. -/
def Step.inMemory : Step → Act World Answer
  | .request r => r.act
  | .reopening => return .nothing

/-- Whether what is written by a step is told apart by its written form. -/
def Step.Exact : Step → Prop
  | .request r => r.Exact
  | .reopening => True

/-- **The answers to a series of steps**, each taken where the one before it led. -/
def answers (act : Step → Act World Answer) : World → List Step → List (Outcome Answer)
  | _, [] => []
  | w, step :: rest => (act step w).1 :: answers act (act step w).2 rest

/-- **Whether a series goes smoothly** from a world with its values on disk: no request fails, and
every write reaches its file. -/
def smooth : World → List Step → Bool
  | _, [] => true
  | w, .request r :: rest => World.goesWell r.act w && smooth (r.act w).2 rest
  | w, .reopening :: rest => smooth (Step.onDisk .reopening w).2 rest

/-! ## Values that are told apart -/

/-- Every value of a store is told apart from all others by its written form. -/
def Exact (s : Store) : Prop := ∀ c, Json.Exact (s.document c)

theorem exact_empty_store : Exact empty := by
  intro c
  cases c with
  | users => exact Json.exact_empty
  | globals => exact Json.exact_empty

theorem exact_number {n : Number} (h : n.Canonical) : Json.Exact (.number n) := by
  cases n with
  | int n => trivial
  | double x => exact h

section

variable {s : Store}

theorem Exact.record (h : s.Exact) (user : String) : Json.Exact (.object (s.record user)) := by
  rw [Store.record]
  rcases hrecord : s.users.get? user with _ | record
  · exact Json.exact_empty
  · have hentry := Table.get?_map s.users Value.object user
    rw [hrecord] at hentry
    exact Json.Exact.get? (h .users) hentry

theorem Exact.withRecord (h : s.Exact) (user : String) {record : Table Value}
    (hrecord : Json.Exact (.object record)) : (s.withRecord user record).Exact := by
  intro c
  cases c with
  | users =>
    rw [document, Store.withRecord, Table.map_insert]
    exact Json.Exact.insert (h .users) user hrecord
  | globals => exact h .globals

theorem Exact.setUser (h : s.Exact) (user key : String) {v : Value} (hv : Json.Exact v) :
    (s.setUser user key v).Exact := h.withRecord user ((h.record user).insert key hv)

theorem Exact.withGlobals (h : s.Exact) {globals : Table Value}
    (hglobals : Json.Exact (.object globals)) : Exact { s with globals } := by
  intro c
  cases c with
  | users => exact h .users
  | globals => exact hglobals

theorem Exact.setGlobal (h : s.Exact) (key : String) {v : Value} (hv : Json.Exact v) :
    (s.setGlobal key v).Exact := h.withGlobals (Json.Exact.insert (h .globals) key hv)

/-- A sum is told apart by its written form, whatever it is a sum of. -/
theorem exact_counted {current : Option Value} {amount n : Number} {default : Value}
    (h : counted current amount default = .ok n) : Json.Exact (.number n) := by
  obtain ⟨sum, hsum, hn⟩ := exists_of_bind_ok h
  obtain rfl := Except.ok.inj hn
  exact exact_number (Number.canonical_add hsum).tidy

end

/-- **A step that changes one collection**, and writes nothing that cannot be told apart. -/
structure Changes {α : Type} (c : Collection) (f : Store → α × Store) : Prop where
  /-- what is told apart stays so -/
  exact {s : Store} (h : s.Exact) : (f s).2.Exact
  /-- the other collection is not changed -/
  other {c' : Collection} (hne : c' ≠ c) (s : Store) : (f s).2.document c' = s.document c'

theorem other_users {c : Collection} (h : c ≠ .users) : c = .globals := by
  cases c with
  | users => exact absurd rfl h
  | globals => rfl

theorem other_globals {c : Collection} (h : c ≠ .globals) : c = .users := by
  cases c with
  | users => rfl
  | globals => exact absurd rfl h

theorem changes_setUser (user key : String) {v : Value} (hv : Json.Exact v) :
    Changes .users fun s => ((), s.setUser user key v) where
  exact h := h.setUser user key hv
  other hne _ := by
    rw [other_users hne]
    rfl

theorem changes_setGlobal (key : String) {v : Value} (hv : Json.Exact v) :
    Changes .globals fun s => ((), s.setGlobal key v) where
  exact h := h.setGlobal key hv
  other hne _ := by
    rw [other_globals hne]
    rfl

theorem changes_incrUser (user key : String) (amount : Number) (default : Value) :
    Changes .users fun s => s.incrUser user key amount default where
  exact {s} h := by
    unfold incrUser
    split
    · next hn => exact h.setUser user key (exact_counted hn)
    · exact h.withRecord user (h.record user)
  other hne s := by
    rw [other_users hne]
    unfold incrUser
    split <;> rfl

theorem changes_incrGlobal (key : String) (amount : Number) (default : Value) :
    Changes .globals fun s => s.incrGlobal key amount default where
  exact {s} h := by
    unfold incrGlobal
    split
    · next hn => exact h.setGlobal key (exact_counted hn)
    · exact h
  other hne s := by
    rw [other_globals hne]
    unfold incrGlobal
    split <;> rfl

theorem changes_deleteUser (user key : String) :
    Changes .users fun s => s.deleteUser user key where
  exact {s} h := by
    unfold deleteUser
    split
    · exact h.withRecord user ((h.record user).erase key)
    · exact h
  other hne s := by
    rw [other_users hne]
    unfold deleteUser
    split <;> rfl

theorem changes_deleteGlobal (key : String) :
    Changes .globals fun s => s.deleteGlobal key where
  exact {s} h := by
    unfold deleteGlobal
    split
    · exact h.withGlobals (Json.Exact.erase (h .globals) key)
    · exact h
  other hne s := by
    rw [other_globals hne]
    unfold deleteGlobal
    split <;> rfl

/-! ## Files -/

/-- **The file of a collection holds it.** There may be no file yet of a collection that holds
nothing. -/
def HeldBy (s : Store) (d : Disk) (c : Collection) : Prop :=
  d.readDocument c.file = .ok (.document (s.document c)) ∨
    d.readDocument c.file = .ok .absent ∧ s.document c = .object []

section

variable {s : Store} {c c' : Collection} {d e : Disk}

theorem usersOf_document (users : Table (Table Value)) :
    usersOf (users.map fun entry => (entry.1, .object entry.2)) = users := by
  rw [usersOf, List.filterMap_map]
  exact List.filterMap_some

theorem loadCollection_users (h : s.HeldBy d .users) :
    loadCollection d .users empty = (.ok ⟨s.users, []⟩, []) := by
  rcases h with hdocument | ⟨habsent, hempty⟩
  · rw [loadCollection, hdocument, document]
    simp only [adopt, usersOf_document]
    rfl
  · have hnone : s.users = [] := List.map_eq_nil_iff.mp (Value.object.inj hempty)
    rw [loadCollection, habsent, hnone]
    rfl

theorem loadCollection_globals (h : s.HeldBy d .globals) :
    loadCollection d .globals ⟨s.users, []⟩ = (.ok s, []) := by
  rcases h with hdocument | ⟨habsent, hempty⟩
  · rw [loadCollection, hdocument]
    rfl
  · have hnone : s.globals = [] := Value.object.inj hempty
    rw [loadCollection, habsent, ← hnone]

/-- **What the files hold is what is loaded.** -/
theorem load_of_heldBy (h : ∀ c, s.HeldBy d c) : load d = (.ok s, []) := by
  rw [load, loadCollection_users (h .users)]
  simp only [loadCollection_globals (h .globals)]
  rfl

/-- What is saved is held by its file. -/
theorem heldBy_of_save (hexact : s.Exact) (h : s.save c d = (.ok [], e)) : s.HeldBy e c := by
  unfold save at h
  split at h
  · cases h
  · next content hcontent =>
    split at h
    · next hreplace =>
      obtain rfl := (Prod.mk.inj h).2
      exact .inl (Disk.readDocument_of_read Json.Layout.readable_storedValues (hexact c) hcontent
        (Disk.read_of_replace hreplace))
    · cases h

theorem readDocument_save_of_ne (hne : c' ≠ c) (s : Store) (d : Disk) :
    (s.save c d).2.readDocument c'.file = d.readDocument c'.file := by
  have hread : (s.save c d).2.read c'.file = d.read c'.file := by
    refine Disk.read_congr (get?_save_of_ne s c d ?_ ?_)
    · cases c <;> cases c' <;> decide
    · cases c <;> cases c' <;> first | exact absurd rfl hne | decide
  rw [Disk.readDocument, hread, Disk.readDocument]

/-- **After a step of the store and its write, the files hold what the store holds.** -/
theorem Changes.heldBy {α : Type} {f : Store → α × Store} (hf : Changes c f) (hexact : s.Exact)
    (hheld : ∀ c', s.HeldBy d c') (hsave : (f s).2.save c d = (.ok [], e)) (c' : Collection) :
    (f s).2.HeldBy e c' := by
  by_cases hne : c' = c
  · rw [hne]
    exact heldBy_of_save (hf.exact hexact) hsave
  · have hread := readDocument_save_of_ne hne (f s).2 d
    rw [hsave] at hread
    unfold HeldBy
    rw [hread, hf.other hne]
    exact hheld c'

end

end Store

/-! ## Two worlds -/

namespace World

open Store

/-- **A world with its values on disk beside one with the same values in memory.** -/
structure Mirrored (w m : World) : Prop where
  /-- values are kept on disk in the first -/
  durable : w.durable = true
  /-- and in memory only in the second -/
  memory : m.durable = false
  /-- the values are the same -/
  store : w.store = m.store
  /-- they are told apart by their written form -/
  exact : w.store.Exact
  /-- the files hold them -/
  held (c : Collection) : w.store.HeldBy w.disk c

/-- **An act that goes the same way in both worlds**, where it comes out well and without a note in
the first. -/
def Follows {α : Type} (act : Act World α) : Prop :=
  ∀ (w m : World) (a : α), Mirrored w m → (act w).1 = .done a →
    (act w).2.log.length = w.log.length → (act m).1 = .done a ∧ Mirrored (act w).2 (act m).2

variable {α β : Type} {c : Collection}

theorem follows_see (view : Store → α) : Follows (Act.see fun w => view w.store) := by
  intro w m a h hdone _
  refine ⟨?_, h⟩
  rw [← hdone]
  exact congrArg (fun s => Outcome.done (view s)) h.store.symm

/-- An answer that is passed on in another form. -/
theorem Follows.map {act : Act World α} (h : Follows act) (f : α → β) :
    Follows (act >>= fun a => pure (f a)) := by
  intro w m b hmirrored hdone hlog
  rw [Act.run_bind_return] at hdone hlog ⊢
  rw [Act.run_bind_return]
  rcases hact : (act w).1 with a | fault | _ <;> rw [hact] at hdone <;> cases hdone
  obtain ⟨hmemory, hafter⟩ := h w m a hmirrored hact hlog
  rw [hmemory]
  exact ⟨rfl, hafter⟩

/-- The worlds after a step of the store whose collection was written. -/
theorem Mirrored.step {w m : World} (h : Mirrored w m) {f : Store → α × Store} (hf : Changes c f)
    {disk : Disk} (hsave : (f w.store).2.save c w.disk = (.ok [], disk)) :
    Mirrored { w with store := (f w.store).2, disk } { m with store := (f m.store).2 } where
  durable := h.durable
  memory := h.memory
  store := by rw [h.store]
  exact := hf.exact h.exact
  held := hf.heldBy h.exact h.held hsave

theorem follows_write {f : Store → α × Store} (hf : Changes c f) : Follows (World.write c f) := by
  intro w m a h hdone hlog
  obtain ⟨rfl, disk, hsave, hafter⟩ := exists_of_write h.durable hdone hlog
  rw [run_write h.memory, hafter]
  exact ⟨by rw [h.store], h.step hf hsave⟩

theorem follows_settle {f : Store → Except Fault Number × Store} (hf : Changes c f) :
    Follows (World.settle c f) := by
  intro w m n h hdone hlog
  obtain ⟨hsum, disk, hsave, hafter⟩ := exists_of_settle h.durable hdone hlog
  rw [run_settle h.memory, hafter]
  refine ⟨?_, h.step hf hsave⟩
  rw [← h.store, hsum]
  rfl

theorem follows_discard {f : Store → Bool × Store} (hf : Changes c f)
    (hsame : ∀ s, (f s).1 = false → (f s).2 = s) : Follows (World.discard c f) := by
  intro w m found h hdone hlog
  obtain ⟨hfound, hafter⟩ := exists_of_discard h.durable hdone hlog
  rw [run_discard h.memory, ← h.store, hfound]
  refine ⟨rfl, ?_⟩
  cases found with
  | true =>
    obtain ⟨disk, hsave, hafter⟩ := hafter
    rw [hafter, h.store]
    exact h.store ▸ h.step hf hsave
  | false =>
    -- nothing was deleted, and nothing written
    rw [if_neg Bool.false_ne_true] at hafter
    rw [hafter, hsame _ hfound]
    exact ⟨h.durable, h.memory, rfl, h.exact, h.held⟩

/-- **Every request is answered alike in both worlds**, and leaves them alike. -/
theorem follows_act {r : Request} (h : r.Exact) : Follows r.act := by
  cases r with
  | userValue user key default =>
    exact (follows_see fun s => s.userValue user key default).map Answer.value
  | globalValue key default =>
    exact (follows_see fun s => s.globalValue key default).map Answer.value
  | setUser user key v =>
    exact (follows_write (changes_setUser user key h)).map fun _ => Answer.nothing
  | setGlobal key v => exact (follows_write (changes_setGlobal key h)).map fun _ => Answer.nothing
  | incrUser user key amount default =>
    exact (follows_settle (changes_incrUser user key amount default)).map Answer.number
  | incrGlobal key amount default =>
    exact (follows_settle (changes_incrGlobal key amount default)).map Answer.number
  | deleteUser user key =>
    refine (follows_discard (changes_deleteUser user key) fun s hs => ?_).map Answer.found
    unfold Store.deleteUser at hs ⊢
    split at hs
    · cases hs
    · next hcontains => rw [if_neg hcontains]
  | deleteGlobal key =>
    refine (follows_discard (changes_deleteGlobal key) fun s hs => ?_).map Answer.found
    unfold Store.deleteGlobal at hs ⊢
    split at hs
    · cases hs
    · next hcontains => rw [if_neg hcontains]
  | top key limit ascending => exact follows_see fun s => Answer.rows (s.top key limit ascending)
  | rankOf user key ascending =>
    exact follows_see fun s => Answer.rank (s.rankOf user key ascending)
  | countWithKey key => exact follows_see fun s => Answer.count (s.countWithKey key)

/-- A store that is opened again is as it was. -/
theorem run_reopen {w : World} (hdurable : w.durable = true)
    (hheld : ∀ c, w.store.HeldBy w.disk c) : World.reopen w = (.done (), w) := by
  rw [World.reopen, load_of_heldBy hheld]
  simp only [List.append_nil, ← hdurable]

end World

/-! ## Series of requests -/

namespace Store

open World

/-- What holds of mirrored worlds holds along a series. -/
theorem answers_of_mirrored {w m : World} (h : Mirrored w m) {steps : List Step}
    (hexact : ∀ step ∈ steps, step.Exact) (hsmooth : smooth w steps = true) :
    answers Step.onDisk w steps = answers Step.inMemory m steps := by
  induction steps generalizing w m with
  | nil => rfl
  | cons step rest ih =>
    have hall : ∀ step ∈ rest, step.Exact := fun s hs => hexact s (List.mem_cons_of_mem _ hs)
    cases step with
    | request r =>
      rw [smooth, Bool.and_eq_true, goesWell_iff] at hsmooth
      obtain ⟨⟨⟨a, hdone⟩, hlog⟩, hrest⟩ := hsmooth
      obtain ⟨hmemory, hafter⟩ :=
        follows_act (hexact (.request r) List.mem_cons_self) w m a h hdone hlog
      change (r.act w).1 :: answers Step.onDisk (r.act w).2 rest =
        (r.act m).1 :: answers Step.inMemory (r.act m).2 rest
      rw [ih hafter hall hrest, hdone, hmemory]
    | reopening =>
      have hopen : Step.onDisk .reopening w = (.done .nothing, w) :=
        Act.run_bind_done (run_reopen h.durable h.held)
      rw [smooth, hopen] at hsmooth
      rw [answers, answers, hopen, ih h hall hsmooth]
      rfl

/-- **Restarts do not show.** A store in the files of a directory that held none answers a series of
requests as a store in memory does, wherever in the series it is opened again. -/
theorem answers_eq {w m : World} (hfresh : ∀ c : Collection, w.disk.read c.file = .missing)
    (hmemory : m.durable = false) (hempty : m.store = empty) {steps : List Step}
    (hexact : ∀ step ∈ steps, step.Exact) (hsmooth : smooth (World.reopen w).2 steps = true) :
    answers Step.onDisk (World.reopen w).2 steps = answers Step.inMemory m steps := by
  have hheld : ∀ c, empty.HeldBy w.disk c := by
    intro c
    refine .inr ⟨?_, ?_⟩
    · rw [Disk.readDocument, hfresh c]
    · cases c <;> rfl
  have hopened : (World.reopen w).2 = { w with store := empty, durable := true } := by
    rw [World.reopen, load_of_heldBy hheld]
    simp only [List.append_nil]
  rw [hopened] at hsmooth ⊢
  exact answers_of_mirrored ⟨rfl, hmemory, hempty.symm, exact_empty_store, hheld⟩ hexact hsmooth

namespace Tied

/-- A world with an empty data directory. -/
def world : World where
  dice := ⟨[], 0⟩
  patterns := ⟨200, fun _ => none, []⟩
  network := ⟨[], 0, .plain⟩
  now := ⟨2024, 3, 15, 14, 30, 0, 0⟩

/-- Ann's record is made first, and stays when it holds nothing. -/
def steps : List Step :=
  [.request (.setUser "ann" "mood" (.text "good")), .request (.deleteUser "ann" "mood"),
    .reopening, .request (.incrUser "bob" "points" (.double (Double.ofDecimal false 25 (-1))) .null),
    .reopening, .request (.setUser "ann" "points" (.double (Double.ofDecimal false 25 (-1)))),
    .request (.top "points" 5 false)]

end Tied

theorem answers_eq_tied :
    answers Step.onDisk (World.reopen Tied.world).2 Tied.steps =
      answers Step.inMemory Tied.world Tied.steps := by
  refine answers_eq (fun c => ?_) rfl rfl ?_ ?_
  · cases c <;> rfl
  · have hpoints : Json.Exact (.double (Double.ofDecimal false 25 (-1))) := by
      rw [Value.double, Json.Exact]
      exact Double.canonical_ofDecimal false 25 (-1)
    simp only [Tied.steps, List.forall_mem_cons]
    exact ⟨trivial, trivial, trivial, trivial, trivial, hpoints, trivial, List.forall_mem_nil _⟩
  · decide +kernel

end Store

end ChatFlow
