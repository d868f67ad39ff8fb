import ChatFlow.Schema.Check

/-!
# Records read from documents

What is known of a record that was read, field by field.

* `Schema.required_eq`, `Schema.optional_eq` — a field that is there is taken;
* `Schema.eq_of_finish`, `Schema.optional_cases`, `Schema.exists_of_items` — where the fields of a
  record without defects come from;
* `Schema.Yields`, `Schema.Yields.bind` — **a record is without defects exactly if every field is**;
* `Schema.items_map`, `Schema.exists_items` — a list of documents is read item by item.
-/

namespace ChatFlow.Schema

/-! ## Fields that are there -/

section

variable {α : Type} {data : Table Value} {key : String} {read : Value → Checked α} {v : Value}
  {a other : α}

/-- A field that is there and can be read is taken. -/
theorem required_eq (hv : data.get? key = some v) (ha : read v = .ok a) :
    required data key read other = pure a := by
  rw [required, hv]
  simp only [inside, ha]
  rfl

theorem optional_eq (hv : data.get? key = some v) (ha : read v = .ok a) :
    optional data key read other = pure a := by
  rw [Schema.optional, hv]
  simp only [inside, ha]
  rfl

/-- A field that is not there is its default. -/
theorem optional_none (h : data.get? key = none) : optional data key read other = pure other := by
  rw [Schema.optional, h]

end

/-- A list of documents is read item by item. -/
theorem items_map {α : Type} {read : Value → Checked α} {f : α → Value} {l : List α}
    (h : ∀ a ∈ l, read (f a) = .ok a) : items read (.list (l.map f)) = .ok l := by
  have hfrom (i : Nat) : itemsFrom read i (l.map f) = .ok l := by
    induction l generalizing i with
    | nil => rfl
    | cons a l ih =>
      have hrest := ih (fun x hx => h x (List.mem_cons_of_mem _ hx)) (i + 1)
      rw [List.map_cons, itemsFrom, h a List.mem_cons_self, hrest]
      rfl
  exact hfrom 0

/-! ## Records without defects -/

theorem eq_of_record {v : Value} {data : Table Value} (h : record v = .ok data) :
    v = .object data := by
  unfold record at h
  split at h
  · rw [Except.ok.inj h]
  · cases h

theorem eq_of_map {v : Value} {data : Table Value} (h : map v = .ok data) : v = .object data := by
  unfold map at h
  split at h
  · rw [Except.ok.inj h]
  · cases h

/-- A record without defects is what its fields made of it. -/
theorem eq_of_finish {α : Type} {fields : Fields α} {a : α} (h : finish fields = .ok a) :
    a = (fields []).1 := by
  unfold finish at h
  split at h
  · next v hv => rw [hv]; exact (Except.ok.inj h).symm
  · cases h

/-- An optional field is its default, or was read. -/
theorem optional_cases {α : Type} (data : Table Value) (key : String) (read : Value → Checked α)
    (default : α) (found : List Defect) :
    (optional data key read default found).1 = default ∨
      ∃ v, data.get? key = some v ∧ read v = .ok (optional data key read default found).1 := by
  unfold optional
  rcases hv : data.get? key with _ | v
  · exact .inl rfl
  · simp only [take, inside]
    rcases hr : read v with ds | a
    · exact .inl rfl
    · exact .inr ⟨v, rfl, hr⟩

/-- A required field is what stands in its place when it is missing, or was read. -/
theorem required_cases {α : Type} (data : Table Value) (key : String) (read : Value → Checked α)
    (fallback : α) (found : List Defect) :
    (required data key read fallback found).1 = fallback ∨
      ∃ v, data.get? key = some v ∧ read v = .ok (required data key read fallback found).1 := by
  unfold required
  rcases hv : data.get? key with _ | v
  · exact .inl rfl
  · simp only [take, inside]
    rcases hr : read v with ds | a
    · exact .inl rfl
    · exact .inr ⟨v, rfl, hr⟩

/-- What holds of every value that is read, and of the default, holds of an optional field. -/
theorem optional_forall {α : Type} {P : α → Prop} {data : Table Value} {key : String}
    {read : Value → Checked α} {default : α} (hread : ∀ v a, read v = .ok a → P a)
    (hdefault : P default) (found : List Defect) :
    P (optional data key read default found).1 := by
  rcases optional_cases data key read default found with heq | ⟨v, -, hv⟩
  · rwa [heq]
  · exact hread v _ hv

/-- Every item of a list was read from an item of its document. -/
theorem exists_of_itemsFrom {α : Type} {read : Value → Checked α} {l : List Value} {i : Nat}
    {as : List α} (h : itemsFrom read i l = .ok as) : ∀ a ∈ as, ∃ v ∈ l, read v = .ok a := by
  induction l generalizing i as with
  | nil =>
    obtain rfl := Except.ok.inj h
    exact fun a ha => absurd ha List.not_mem_nil
  | cons v rest ih =>
    unfold itemsFrom inside at h
    rcases hv : read v with ds | a <;> rcases hr : itemsFrom read (i + 1) rest with ds' | others <;>
      rw [hv, hr] at h <;> cases h
    intro b hb
    rcases List.mem_cons.mp hb with rfl | hb
    · exact ⟨v, List.mem_cons_self, hv⟩
    · obtain ⟨u, hu, hread⟩ := ih hr b hb
      exact ⟨u, List.mem_cons_of_mem _ hu, hread⟩

theorem exists_of_items {α : Type} {read : Value → Checked α} {v : Value} {as : List α}
    (h : items read v = .ok as) : ∀ a ∈ as, ∃ u ∈ v.items, read u = .ok a := by
  unfold items at h
  split at h
  · exact exists_of_itemsFrom h
  · exact exists_of_itemsFrom h
  · cases h

/-- What holds of every item that is read holds of the items of a list. -/
theorem forall_of_items {α : Type} {P : α → Prop} {read : Value → Checked α}
    (hread : ∀ v a, read v = .ok a → P a) {v : Value} {as : List α}
    (h : items read v = .ok as) : ∀ a ∈ as, P a := by
  intro a ha
  obtain ⟨u, -, hu⟩ := exists_of_items h a ha
  exact hread u a hu

/-- **A list is read if each of its items is**, and then item by item. -/
theorem exists_items {α : Type} {read : Value → Checked α} {l : List Value}
    (h : ∀ v ∈ l, ∃ a, read v = .ok a) :
    ∃ as, items read (.list l) = .ok as ∧ l.map read = as.map .ok := by
  have hfrom (i : Nat) : ∃ as, itemsFrom read i l = .ok as ∧ l.map read = as.map .ok := by
    induction l generalizing i with
    | nil => exact ⟨[], rfl, rfl⟩
    | cons v rest ih =>
      rw [List.forall_mem_cons] at h
      obtain ⟨a, ha⟩ := h.1
      obtain ⟨others, hothers, hmap⟩ := ih h.2 (i + 1)
      refine ⟨a :: others, ?_, by rw [List.map_cons, List.map_cons, ha, hmap]⟩
      rw [itemsFrom, ha, hothers]
      rfl
  exact hfrom 0

/-! ## One field at a time -/

/-- **Whether a reader says what is wrong** with the values that it refuses. -/
def Speaks {α : Type} (read : Value → Checked α) : Prop := ∀ v, read v ≠ .error []

section

variable {α β : Type} {data : Table Value} {key : String} {read : Value → Checked α}
  {other default a : α}

/-- **What a field is read as**, if it is there. -/
def Given (data : Table Value) (key : String) (read : Value → Checked α) (a : α) : Prop :=
  ∃ v, data.get? key = some v ∧ read v = .ok a

/-- **What a field with a default is taken for.** -/
def Taken (data : Table Value) (key : String) (read : Value → Checked α) (default a : α) : Prop :=
  Given data key read a ∨ data.get? key = none ∧ a = default

theorem finish_eq_ok_iff {fields : Fields α} : finish fields = .ok a ↔ fields [] = (a, []) := by
  unfold finish
  rcases fields [] with ⟨v, _ | ⟨d, ds⟩⟩
  · exact ⟨fun h => congrArg (Prod.mk · []) (Except.ok.inj h),
      fun h => congrArg (Except.ok ∘ Prod.fst) h⟩
  · exact ⟨nofun, fun h => absurd (congrArg Prod.snd h) (List.cons_ne_nil d ds)⟩

/-- **What fields yield** when nothing is wrong with them. What was wrong before stays. -/
structure Yields (fields : Fields α) (P : α → Prop) : Prop where
  /-- defects are only added -/
  keeps (found : List Defect) : ∃ more, (fields found).2 = found ++ more
  /-- what there is without defects -/
  finish_iff (a : α) : finish fields = .ok a ↔ P a

theorem yields_pure (a : α) : Yields (pure a) (a = ·) :=
  ⟨fun found => ⟨[], (List.append_nil found).symm⟩, fun _ => ⟨Except.ok.inj, congrArg Except.ok⟩⟩

theorem yields_take (other : α) {r : Checked α} (hr : r ≠ .error []) :
    Yields (take other r) (r = .ok ·) := by
  constructor
  · intro found
    cases r with
    | ok a => exact ⟨[], (List.append_nil found).symm⟩
    | error ds => exact ⟨ds, rfl⟩
  · intro a
    rw [finish_eq_ok_iff]
    rcases r with ds | x
    · obtain ⟨d, ds, rfl⟩ := List.exists_cons_of_ne_nil fun hds => hr (congrArg Except.error hds)
      refine iff_of_false (fun h => ?_) nofun
      cases congrArg Prod.snd h
    · change (x, []) = (a, []) ↔ _
      simp

theorem inside_eq_ok_iff {segment : String} {r : Checked α} :
    inside segment r = .ok a ↔ r = .ok a := by
  cases r with
  | ok x => exact Iff.rfl
  | error ds => exact iff_of_false nofun nofun

theorem inside_ne (segment : String) {r : Checked α} (h : r ≠ .error []) :
    inside segment r ≠ .error [] := by
  cases r with
  | ok a => nofun
  | error ds =>
    intro hnone
    have hds : ds = [] := List.map_eq_nil_iff.mp (Except.error.inj hnone)
    exact h (congrArg Except.error hds)

/-- A field of its own, under whatever name. -/
theorem yields_inside (key : String) (other : α) {r : Checked α} (hr : r ≠ .error []) :
    Yields (take other (inside key r)) (r = .ok ·) := by
  obtain ⟨hkeeps, hiff⟩ := yields_take other (inside_ne key hr)
  exact ⟨hkeeps, fun a => (hiff a).trans inside_eq_ok_iff⟩

/-- **A field that has to be there** yields what is there. -/
theorem yields_required (hread : Speaks read) :
    Yields (required data key read other) (Given data key read) := by
  rw [required]
  rcases hv : data.get? key with _ | v
  · obtain ⟨hkeeps, hiff⟩ := yields_inside key other (r := refuse "missing") nofun
    refine ⟨hkeeps, fun a => (hiff a).trans (iff_of_false nofun ?_)⟩
    rintro ⟨v, hsome, -⟩
    rw [hv] at hsome
    cases hsome
  · obtain ⟨hkeeps, hiff⟩ := yields_inside key other (hread v)
    refine ⟨hkeeps, fun a => (hiff a).trans ?_⟩
    simp [Given, hv]

/-- **A field with a default** yields what is there, or else the default. -/
theorem yields_optional (hread : Speaks read) :
    Yields (optional data key read default) (Taken data key read default) := by
  rw [optional]
  rcases hv : data.get? key with _ | v
  · obtain ⟨hkeeps, hiff⟩ := yields_pure default
    refine ⟨hkeeps, fun a => (hiff a).trans ?_⟩
    simp [Taken, Given, hv, eq_comm]
  · obtain ⟨hkeeps, hiff⟩ := yields_inside key default (hread v)
    refine ⟨hkeeps, fun a => (hiff a).trans ?_⟩
    simp [Taken, Given, hv]

/-- **One field after another**: nothing is wrong with both if nothing is wrong with either. -/
theorem Yields.bind {first : Fields α} {next : α → Fields β} {P : α → Prop} {Q : α → β → Prop}
    (hfirst : Yields first P) (hnext : ∀ a, Yields (next a) (Q a)) :
    Yields (first >>= next) fun b => ∃ a, P a ∧ Q a b := by
  constructor
  · intro found
    obtain ⟨some, hsome⟩ := hfirst.keeps found
    obtain ⟨more, hmore⟩ := (hnext (first found).1).keeps (first found).2
    refine ⟨some ++ more, ?_⟩
    rw [← List.append_assoc, ← hsome]
    exact hmore
  · intro b
    simp only [← hfirst.finish_iff, ← (hnext _).finish_iff, finish_eq_ok_iff]
    constructor
    · intro h
      change next (first []).1 (first []).2 = (b, []) at h
      obtain ⟨more, hmore⟩ := (hnext (first []).1).keeps (first []).2
      rw [h] at hmore
      -- a defect of the first field would still be there in the end
      have hnone : (first []).2 = [] := (List.append_eq_nil_iff.mp hmore.symm).1
      exact ⟨(first []).1, Prod.ext rfl hnone, by rwa [hnone] at h⟩
    · rintro ⟨a, hdone, hrest⟩
      change next (first []).1 (first []).2 = (b, [])
      rw [hdone, hrest]

end

/-! ## What readers say -/

theorem finish_ne {α : Type} (fields : Fields α) : finish fields ≠ .error [] := by
  unfold finish
  rcases fields [] with ⟨a, _ | ⟨d, ds⟩⟩ <;> nofun

theorem bind_ne {α β : Type} {r : Checked α} {f : α → Checked β} (hr : r ≠ .error [])
    (hf : ∀ a, f a ≠ .error []) : (r >>= f) ≠ .error [] := by
  cases r with
  | ok a => exact hf a
  | error ds => exact fun h => hr (congrArg Except.error (Except.error.inj h))

theorem map_ne {α β : Type} {r : Checked α} (f : α → β) (h : r ≠ .error []) :
    r.map f ≠ .error [] := by
  cases r with
  | ok a => nofun
  | error ds => exact fun hmap => h (congrArg Except.error (Except.error.inj hmap))

theorem speaks_record : Speaks record := by
  intro v
  cases v <;> nofun

theorem speaks_map : Speaks map := by
  intro v
  cases v <;> nofun

theorem speaks_text : Speaks text := by
  intro v
  cases v with
  | bytes data =>
    change bytesText data ≠ _
    rw [bytesText]
    split <;> nofun
  | _ => nofun

theorem speaks_flag : Speaks flag := by
  intro v
  unfold flag numberFlag
  repeat' split
  all_goals nofun

theorem speaks_real : Speaks real := by
  intro v
  unfold real
  repeat' split
  all_goals nofun

theorem speaks_items {α : Type} {read : Value → Checked α} (hread : Speaks read) :
    Speaks (items read) := by
  have hfrom (l : List Value) (i : Nat) : itemsFrom read i l ≠ .error [] := by
    induction l generalizing i with
    | nil => nofun
    | cons v rest ih =>
      have hfirst := inside_ne (toString i) (hread v)
      have hrest := ih (i + 1)
      rw [itemsFrom]
      generalize inside (toString i) (read v) = first at hfirst ⊢
      generalize itemsFrom read (i + 1) rest = last at hrest ⊢
      rcases first with ds | a <;> rcases last with others | as
      · simpa using fun hds => absurd (congrArg Except.error hds) hfirst
      · exact fun h => hfirst (congrArg Except.error (Except.error.inj h))
      · exact hrest
      · nofun
  intro v
  cases v with
  | list l => exact hfrom l 0
  | tuple l => exact hfrom l 0
  | _ => nofun

end ChatFlow.Schema
