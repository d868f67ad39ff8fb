import ChatFlow.Fault

/-!
# Acts

An act runs on a state and ends in one of three ways: with a result, with a fault, or not at all
because a call it made never returned. What it had done by then stays done.

* `Act.attempt` — a fault becomes a result, so that one failure does not stop what follows; an act
  that hangs cannot be rescued;
* `Act.inside` — an act on a part of the state.
-/

namespace ChatFlow

/-- **How an act ended.** -/
inductive Outcome (α : Type) where
  /-- with a result -/
  | done (result : α)
  /-- with a fault -/
  | failed (fault : Fault)
  /-- never -/
  | hung
  deriving Repr

/-- **An act**: from a state to an ending and the state at that time. -/
def Act (σ α : Type) : Type := σ → Outcome α × σ

namespace Act

variable {σ τ α β : Type}

/-- The act that gives a result and changes nothing. -/
protected def pure (a : α) : Act σ α := fun s => (.done a, s)

/-- One act after another. -/
protected def bind (act : Act σ α) (next : α → Act σ β) : Act σ β := fun s =>
  match act s with
  | (.done a, s) => next a s
  | (.failed f, s) => (.failed f, s)
  | (.hung, s) => (.hung, s)

instance : Monad (Act σ) where
  pure := Act.pure
  bind := Act.bind

/-- The act that fails. -/
def fail (f : Fault) : Act σ α := fun s => (.failed f, s)

/-- The state as it is. -/
def look : Act σ σ := fun s => (.done s, s)

/-- A view of the state. -/
def see (view : σ → α) : Act σ α := fun s => (.done (view s), s)

/-- A change of the state. -/
def change (step : σ → σ) : Act σ Unit := fun s => (.done (), step s)

/-- A result and a change of the state. -/
def step (f : σ → α × σ) : Act σ α := fun s => (.done (f s).1, (f s).2)

/-- A computed result, or its fault. -/
def of (r : Except Fault α) : Act σ α := fun s =>
  match r with
  | .ok a => (.done a, s)
  | .error f => (.failed f, s)

/-- **The ending of an act as a result**, unless it hangs. -/
def attempt (act : Act σ α) : Act σ (Except Fault α) := fun s =>
  match act s with
  | (.done a, s) => (.done (.ok a), s)
  | (.failed f, s) => (.done (.error f), s)
  | (.hung, s) => (.hung, s)

/-- An act on a part of the state. -/
def inside (part : τ → σ) (restore : σ → τ → τ) (act : Act σ α) : Act τ α := fun t =>
  let (ending, s) := act (part t)
  (ending, restore s t)

/-- One act for each item, in order. -/
def forEach (items : List α) (act : α → Act σ Unit) : Act σ Unit :=
  match items with
  | [] => Act.pure ()
  | x :: rest => Act.bind (act x) fun _ => forEach rest act

theorem run_pure (a : α) (s : σ) : (pure a : Act σ α) s = (.done a, s) := rfl

theorem run_bind (act : Act σ α) (next : α → Act σ β) (s : σ) :
    (act >>= next) s = match act s with
      | (.done a, s) => next a s
      | (.failed f, s) => (.failed f, s)
      | (.hung, s) => (.hung, s) := rfl

theorem bind_pure_left (a : α) (next : α → Act σ β) : (pure a : Act σ α) >>= next = next a := rfl

theorem bind_assoc {γ : Type} (act : Act σ α) (next : α → Act σ β) (last : β → Act σ γ) :
    (act >>= next) >>= last = act >>= fun a => next a >>= last := by
  funext s
  simp only [run_bind]
  rcases act s with ⟨_ | _ | _, _⟩ <;> rfl

theorem bind_pure_right (act : Act σ α) : act >>= pure = act := by
  funext s
  simp only [run_bind]
  rcases act s with ⟨_ | _ | _, _⟩ <;> rfl

end Act

end ChatFlow
