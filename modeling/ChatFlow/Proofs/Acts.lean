import ChatFlow.Act

/-!
# Reasoning about acts

What an act comes to, read off how its first part ended:

* `Act.run_bind_done`, `Act.run_bind_failed`, `Act.run_bind_hung` — one act after another,
  `Act.exists_of_bind_done` — read backwards, and `Act.leads_bind` — where they lead;
* `Act.run_of_ok`, `Act.run_of_error` — a computed result;
* `Act.forEach_map`, `Act.forEach_singleton` — one act for each item;
* `Act.collect` — what is said about each act of such a row, as far as the row comes.
-/

namespace ChatFlow

deriving instance DecidableEq for Outcome

/-- An ending with its result replaced. -/
def Outcome.map {α β : Type} (f : α → β) : Outcome α → Outcome β
  | .done a => .done (f a)
  | .failed fault => .failed fault
  | .hung => .hung

theorem Outcome.done_ne_failed {α : Type} (a : α) (f : Fault) : (.done a : Outcome α) ≠ .failed f := by
  intro h
  cases h

theorem Outcome.hung_ne_failed {α : Type} (f : Fault) : (.hung : Outcome α) ≠ .failed f := by
  intro h
  cases h

namespace Act

variable {σ τ α β : Type}

theorem run_bind_done {act : Act σ α} {next : α → Act σ β} {s t : σ} {a : α}
    (h : act s = (.done a, t)) : (act >>= next) s = next a t := by
  rw [run_bind, h]

theorem run_bind_failed {act : Act σ α} {next : α → Act σ β} {s t : σ} {f : Fault}
    (h : act s = (.failed f, t)) : (act >>= next) s = (.failed f, t) := by
  rw [run_bind, h]

theorem run_bind_hung {act : Act σ α} {next : α → Act σ β} {s t : σ}
    (h : act s = (.hung, t)) : (act >>= next) s = (.hung, t) := by
  rw [run_bind, h]

/-- Where two acts come to a result, one after the other, the first one does. -/
theorem exists_of_bind_done {act : Act σ α} {next : α → Act σ β} {s u : σ} {b : β}
    (h : (act >>= next) s = (.done b, u)) : ∃ a t, act s = (.done a, t) ∧ next a t = (.done b, u) := by
  rw [run_bind] at h
  rcases hact : act s with ⟨a | f | _, t⟩ <;> rw [hact] at h
  · exact ⟨a, t, rfl, h⟩
  · cases h
  · cases h

/-- What comes to the same goes on in the same way. -/
theorem run_bind_congr {act act' : Act σ α} {s t : σ} (h : act s = act' t) (next : α → Act σ β) :
    (act >>= next) s = (act' >>= next) t := by
  rw [run_bind, run_bind, h]

/-- A result that is only passed on in another form. -/
theorem run_bind_return (act : Act σ α) (f : α → β) (s : σ) :
    (act >>= fun a => pure (f a)) s = ((act s).1.map f, (act s).2) := by
  rw [run_bind]
  rcases act s with ⟨_ | _ | _, t⟩ <;> rfl

/-- **What two acts lead to, one after the other**, if both lead to what a relation allows. -/
theorem leads_bind {R : σ → σ → Prop} (htrans : ∀ {s t u}, R s t → R t u → R s u)
    {act : Act σ α} {next : α → Act σ β} {s : σ} (h : R s (act s).2)
    (hnext : ∀ {a t}, act s = (.done a, t) → R t (next a t).2) : R s ((act >>= next) s).2 := by
  rcases hrun : act s with ⟨a | f | _, t⟩ <;> rw [hrun] at h
  · rw [run_bind_done hrun]
    exact htrans h (hnext hrun)
  · rwa [run_bind_failed hrun]
  · rwa [run_bind_hung hrun]

/-- A fault that becomes a result leaves the state as it is. -/
theorem attempt_snd (act : Act σ α) (s : σ) : (act.attempt s).2 = (act s).2 := by
  rw [attempt]
  rcases act s with ⟨a | f | _, t⟩ <;> rfl

theorem run_of_ok {r : Except Fault α} {a : α} (h : r = .ok a) (s : σ) :
    of r s = (.done a, s) := by
  rw [h]
  rfl

theorem run_of_error {r : Except Fault α} {f : Fault} (h : r = .error f) (s : σ) :
    of r s = (.failed f, s) := by
  rw [h]
  rfl

/-- A computed result leaves the state as it is. -/
theorem of_snd (r : Except Fault α) (s : σ) : (of r s).2 = s := by
  cases r <;> rfl

theorem run_inside (part : τ → σ) (restore : σ → τ → τ) (act : Act σ α) (t : τ) :
    act.inside part restore t = ((act (part t)).1, restore (act (part t)).2 t) := rfl

/-! ## One act for each item -/

theorem forEach_nil (act : α → Act σ Unit) : forEach [] act = pure () := rfl

theorem forEach_cons (x : α) (rest : List α) (act : α → Act σ Unit) :
    forEach (x :: rest) act = act x >>= fun _ => forEach rest act := rfl

theorem forEach_singleton (x : α) (act : α → Act σ Unit) : forEach [x] act = act x := by
  rw [forEach_cons, forEach_nil]
  exact bind_pure_right (act x)

theorem forEach_map (f : α → β) (act : β → Act σ Unit) (items : List α) :
    forEach (items.map f) act = forEach items fun x => act (f x) := by
  induction items with
  | nil => rfl
  | cons x rest ih => rw [List.map_cons, forEach_cons, forEach_cons, ih]

/-- **What is said about the acts of a row**, in order: nothing is said about those that are never
begun. -/
def collect (act : α → Act σ Unit) (say : α → σ → List β) : List α → σ → List β
  | [], _ => []
  | x :: rest, s => say x s ++ match act x s with
    | (.done _, t) => collect act say rest t
    | (_, _) => []

theorem collect_cons_done {act : α → Act σ Unit} {say : α → σ → List β} {x : α} {s t : σ}
    (h : act x s = (.done (), t)) (rest : List α) :
    collect act say (x :: rest) s = say x s ++ collect act say rest t := by
  rw [collect, h]

theorem collect_cons_hung {act : α → Act σ Unit} {say : α → σ → List β} {x : α} {s t : σ}
    (h : act x s = (.hung, t)) (rest : List α) :
    collect act say (x :: rest) s = say x s := by
  rw [collect, h, List.append_nil]

end Act

end ChatFlow
