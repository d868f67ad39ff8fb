import ChatFlow.Proofs.Acts
import ChatFlow.World

/-!
# Keeping stored values

What the acts on stored values come to.

* `World.run_write`, `World.run_settle`, `World.run_discard` — in memory: the step of the store, and
  nothing else;
* `World.keep_done` — on disk, **what has a written form is kept**;
* `World.exists_of_write`, `World.exists_of_settle`, `World.exists_of_discard` — on disk, where the
  act came out well and nothing was noted: **the same step, and its collection written**.
-/

namespace ChatFlow.World

variable {w : World}

/-! ## In memory -/

section

variable (h : w.durable = false) (c : Collection)

include h

/-- Nothing is kept where stored values are in memory only. -/
theorem run_keep : World.keep c w = (.done (), w) := by
  unfold World.keep
  rw [if_neg (by simp [h])]

theorem run_write {α : Type} (f : Store → α × Store) :
    World.write c f w = (.done (f w.store).1, { w with store := (f w.store).2 }) := by
  have hstep : Act.step (fun w : World => ((f w.store).1, { w with store := (f w.store).2 })) w =
      (.done (f w.store).1, { w with store := (f w.store).2 }) := rfl
  have hkeep := run_keep (w := { w with store := (f w.store).2 }) h c
  exact (Act.run_bind_done hstep).trans (Act.run_bind_done hkeep)

theorem run_settle (f : Store → Except Fault Number × Store) :
    World.settle c f w =
      ((Act.of (f w.store).1 w).1, { w with store := (f w.store).2 }) := by
  have hstep : Act.step (fun w : World => ((f w.store).1, { w with store := (f w.store).2 })) w =
      (.done (f w.store).1, { w with store := (f w.store).2 }) := rfl
  have hkeep := run_keep (w := { w with store := (f w.store).2 }) h c
  refine (Act.run_bind_done hstep).trans ?_
  rcases (f w.store).1 with e | n
  · exact Act.run_bind_failed rfl
  · exact (Act.run_bind_done rfl).trans (Act.run_bind_done hkeep)

theorem run_discard (f : Store → Bool × Store) :
    World.discard c f w = (.done (f w.store).1, { w with store := (f w.store).2 }) := by
  have hstep : Act.step (fun w : World => ((f w.store).1, { w with store := (f w.store).2 })) w =
      (.done (f w.store).1, { w with store := (f w.store).2 }) := rfl
  have hkeep := run_keep (w := { w with store := (f w.store).2 }) h c
  refine (Act.run_bind_done hstep).trans ?_
  cases (f w.store).1 with
  | true => exact Act.run_bind_done hkeep
  | false => rfl

end

/-! ## On disk -/

/-- A sum that was made is kept. -/
theorem settle_of_ok {c : Collection} {f : Store → Except Fault Number × Store} {n : Number}
    {store : Store} (h : f w.store = (.ok n, store)) :
    settle c f w = (keep c >>= fun _ => pure n) { w with store } := by
  have hstep : Act.step (fun w : World => ((f w.store).1, { w with store := (f w.store).2 })) w =
      (.done (.ok n), { w with store }) := by
    rw [Act.step, h]
  exact (Act.run_bind_done hstep).trans (Act.run_bind_done rfl)

/-- **Whether a collection can be kept**: it has a written form, or none is needed. -/
def CanKeep (w : World) (c : Collection) : Prop :=
  w.durable = true → ∃ content, Json.write .storedValues (w.store.document c) = .ok content

instance (w : World) (c : Collection) : Decidable (w.CanKeep c) :=
  match h : Json.write .storedValues (w.store.document c) with
  | .ok content => .isTrue fun _ => ⟨content, h⟩
  | .error _ => decidable_of_iff (w.durable = false)
    ⟨fun hm hd => absurd (hm.symm.trans hd) Bool.false_ne_true, fun hk =>
      Bool.eq_false_iff.mpr fun hd => nomatch h.symm.trans (hk hd).choose_spec⟩

/-- What can be kept is kept, also where the disk refuses it. -/
theorem keep_done {c : Collection} (h : w.CanKeep c) : (keep c w).1 = .done () := by
  unfold keep
  split
  · next hdurable =>
    obtain ⟨content, hcontent⟩ := h hdurable
    unfold Store.save
    rw [hcontent]
    dsimp only
    rcases w.disk.replace c.draft c.file content with ⟨_ | _, disk⟩
    · rfl
    · rfl
  · rfl

/-- Keeping a collection changes neither the store nor how it is kept. -/
theorem keep_same (c : Collection) (w : World) :
    (keep c w).2.store = w.store ∧ (keep c w).2.durable = w.durable := by
  unfold keep
  split
  · split <;> exact ⟨rfl, rfl⟩
  · exact ⟨rfl, rfl⟩

/-- **Whether an act comes out well** and writes no note. A collection that could not be written is
noted. -/
def goesWell {α : Type} (act : Act World α) (w : World) : Bool :=
  (match (act w).1 with
    | .done _ => true
    | _ => false) && (act w).2.log.length = w.log.length

theorem goesWell_iff {α : Type} {act : Act World α} :
    goesWell act w = true ↔ (∃ a, (act w).1 = .done a) ∧ (act w).2.log.length = w.log.length := by
  rw [goesWell, Bool.and_eq_true, decide_eq_true_eq]
  rcases (act w).1 with a | f | _ <;> simp

section

variable (h : w.durable = true) {c : Collection}

include h

/-- What is kept without a note was written. -/
theorem exists_of_keep (hdone : (keep c w).1 = .done ())
    (hlog : (keep c w).2.log.length = w.log.length) :
    ∃ disk, w.store.save c w.disk = (.ok [], disk) ∧ (keep c w).2 = { w with disk } := by
  unfold keep at hdone hlog ⊢
  rw [if_pos h] at hdone hlog ⊢
  rcases hsave : w.store.save c w.disk with ⟨f | ns, disk⟩
  · rw [hsave] at hdone
    cases hdone
  · rw [hsave] at hlog
    obtain rfl : ns = [] := by simpa using hlog
    refine ⟨disk, rfl, ?_⟩
    simp only [List.append_nil]

/-- An act that goes on to keep what it changed. -/
theorem exists_of_keep_return {α : Type} {a b : α}
    (hdone : ((keep c >>= fun _ => pure b) w).1 = .done a)
    (hlog : ((keep c >>= fun _ => pure b) w).2.log.length = w.log.length) :
    b = a ∧ ∃ disk, w.store.save c w.disk = (.ok [], disk) ∧
      ((keep c >>= fun _ => pure b) w).2 = { w with disk } := by
  rw [Act.run_bind_return] at hdone hlog ⊢
  rcases hkeep : (keep c w).1 with u | f | _ <;> rw [hkeep] at hdone <;> cases hdone
  exact ⟨rfl, exists_of_keep h hkeep hlog⟩

theorem exists_of_write {α : Type} {f : Store → α × Store} {a : α}
    (hdone : (write c f w).1 = .done a) (hlog : (write c f w).2.log.length = w.log.length) :
    (f w.store).1 = a ∧ ∃ disk, (f w.store).2.save c w.disk = (.ok [], disk) ∧
      (write c f w).2 = { w with store := (f w.store).2, disk } :=
  exists_of_keep_return (w := { w with store := (f w.store).2 }) h hdone hlog

theorem exists_of_settle {f : Store → Except Fault Number × Store} {n : Number}
    (hdone : (settle c f w).1 = .done n) (hlog : (settle c f w).2.log.length = w.log.length) :
    (f w.store).1 = .ok n ∧ ∃ disk, (f w.store).2.save c w.disk = (.ok [], disk) ∧
      (settle c f w).2 = { w with store := (f w.store).2, disk } := by
  have hstep : settle c f w = (Act.of (f w.store).1 >>= fun n => keep c >>= fun _ => pure n)
      { w with store := (f w.store).2 } := rfl
  rw [hstep] at hdone hlog ⊢
  rcases hsum : (f w.store).1 with e | sum
  · rw [hsum] at hdone
    cases hdone
  · rw [hsum] at hdone hlog
    obtain ⟨rfl, hkept⟩ :=
      exists_of_keep_return (w := { w with store := (f w.store).2 }) h hdone hlog
    exact ⟨rfl, hkept⟩

theorem exists_of_discard {f : Store → Bool × Store} {found : Bool}
    (hdone : (discard c f w).1 = .done found) (hlog : (discard c f w).2.log.length = w.log.length) :
    (f w.store).1 = found ∧ if found then ∃ disk, (f w.store).2.save c w.disk = (.ok [], disk) ∧
      (discard c f w).2 = { w with store := (f w.store).2, disk }
    else (discard c f w).2 = { w with store := (f w.store).2 } := by
  have hstep : discard c f w = (if (f w.store).1 then keep c >>= fun _ => pure (f w.store).1
      else pure (f w.store).1 : Act World Bool) { w with store := (f w.store).2 } := rfl
  rw [hstep] at hdone hlog ⊢
  cases hfound : (f w.store).1 with
  | true =>
    rw [hfound] at hdone hlog
    obtain ⟨rfl, hkept⟩ :=
      exists_of_keep_return (w := { w with store := (f w.store).2 }) h hdone hlog
    exact ⟨rfl, hkept⟩
  | false =>
    rw [hfound] at hdone
    cases hdone
    exact ⟨rfl, rfl⟩

end

end ChatFlow.World
