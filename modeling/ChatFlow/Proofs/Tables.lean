import ChatFlow.Table
import Mathlib.Data.List.Nodup

/-!
# Reading tables

* `Table.get?_eq_none_iff` — a key without entry is none of the keys;
* `Table.get?_erase` — reading after an erasure, where keys are distinct;
* `Table.mem_of_get?`, `Table.get?_of_mem` — what is read is an entry, and the other way round where
  keys are distinct;
* `Table.keys_filterMap` — entries that are passed on or passed over keep their order;
* `Table.mem_of_mem_insert`, `Table.mem_of_mem_erase` — the entries after a write or an erasure, and
  `Table.exists_insert` — where a written entry stands;
* `Table.change` — a change of every value, read and written;
* `Table.without` — a table without a key, read and written;
* `Table.contains_congr` — tables that read the same know the same keys;
* `Table.ofEntries_eq` — entries with distinct keys are a table as they are.
-/

namespace ChatFlow.Table

variable {α : Type} {table other : Table α} {key name : String}

theorem get?_eq_none_iff : table.get? key = none ↔ key ∉ table.keys := by
  induction table with
  | nil => simp [get?, keys]
  | cons entry rest ih =>
    obtain ⟨k, v⟩ := entry
    by_cases hk : k = key
    · simp [get?, keys, hk]
    · rw [get?, if_neg hk, ih]
      simp [keys, Ne.symm hk]

theorem get?_erase (h : table.keys.Nodup) (key name : String) :
    (table.erase key).get? name = if key = name then none else table.get? name := by
  split
  · next heq =>
    subst heq
    rw [get?_eq_none_iff, keys_erase]
    exact h.not_mem_erase
  · next hne => exact get?_erase_of_ne table hne

theorem keys_nodup_erase (h : table.keys.Nodup) (key : String) : (table.erase key).keys.Nodup := by
  rw [keys_erase]
  exact h.erase key

theorem mem_of_get? {v : α} (h : table.get? key = some v) : (key, v) ∈ table := by
  induction table with
  | nil => exact absurd h nofun
  | cons entry rest ih =>
    obtain ⟨k, w⟩ := entry
    rw [get?] at h
    split at h
    · next heq =>
      obtain rfl := Option.some.inj h
      exact heq ▸ List.mem_cons_self
    · exact List.mem_cons_of_mem _ (ih h)

theorem get?_of_mem (h : table.keys.Nodup) {v : α} (hmem : (key, v) ∈ table) :
    table.get? key = some v := by
  induction table with
  | nil => exact absurd hmem List.not_mem_nil
  | cons entry rest ih =>
    obtain ⟨k, w⟩ := entry
    rw [keys, List.map_cons, List.nodup_cons] at h
    rcases List.mem_cons.mp hmem with heq | hmem
    · obtain ⟨rfl, rfl⟩ := Prod.mk.inj heq
      exact if_pos rfl
    · have hne : k ≠ key := by
        rintro rfl
        exact h.1 (List.mem_map.mpr ⟨_, hmem, rfl⟩)
      rw [get?, if_neg hne, ih h.2 hmem]

/-- What is read among the entries that are kept, where keys are distinct. -/
theorem get?_filter (h : table.keys.Nodup) (keep : α → Bool) (key : String) :
    get? (table.filter fun entry => keep entry.2) key = (table.get? key).filter keep := by
  have hsub : (table.filter fun entry => keep entry.2).Sublist table := List.filter_sublist
  have hkeys : keys (table.filter fun entry => keep entry.2) |>.Nodup := (hsub.map Prod.fst).nodup h
  rcases hv : table.get? key with _ | v
  · rw [get?_eq_none_iff] at hv
    rw [Option.filter_none, get?_eq_none_iff]
    exact fun hmem => hv ((hsub.map Prod.fst).subset hmem)
  · by_cases hkeep : keep v = true
    · rw [Option.filter_some_pos hkeep]
      exact get?_of_mem hkeys (List.mem_filter.mpr ⟨mem_of_get? hv, hkeep⟩)
    · rw [Option.filter_some_neg (Bool.eq_false_iff.mpr hkeep), get?_eq_none_iff]
      intro hmem
      obtain ⟨⟨_, w⟩, hentry, rfl⟩ := List.mem_map.mp hmem
      obtain ⟨hentry, hw⟩ := List.mem_filter.mp hentry
      obtain rfl := Option.some.inj (hv.symm.trans (get?_of_mem h hentry))
      exact hkeep hw

/-- The keys of entries that are passed on under their keys, or passed over. -/
theorem keys_filterMap {β : Type} {f : String × α → Option (String × β)}
    (hf : ∀ {entry row}, f entry = some row → row.1 = entry.1) (table : Table α) :
    (keys (table.filterMap f)).Sublist table.keys := by
  induction table with
  | nil => exact .slnil
  | cons entry rest ih =>
    rw [List.filterMap_cons]
    split
    · exact ih.cons _
    · next row hrow =>
      rw [keys, keys, List.map_cons, List.map_cons, hf hrow]
      exact ih.cons_cons _

/-- An entry after a write is the written one, or was there before. -/
theorem mem_of_mem_insert {entry : String × α} {v : α} (h : entry ∈ table.insert key v) :
    entry = (key, v) ∨ entry ∈ table := by
  induction table with
  | nil => exact .inl (List.mem_singleton.mp h)
  | cons first rest ih =>
    obtain ⟨k, w⟩ := first
    rw [insert] at h
    split at h
    · next heq =>
      rcases List.mem_cons.mp h with hnew | hold
      · exact .inl (heq ▸ hnew)
      · exact .inr (List.mem_cons_of_mem _ hold)
    · rcases List.mem_cons.mp h with hfirst | hrest
      · exact .inr (hfirst ▸ List.mem_cons_self)
      · exact (ih hrest).imp_right (List.mem_cons_of_mem _)

/-- **A written entry stands between entries that were there before**, the first one of its key. -/
theorem exists_insert (table : Table α) (key : String) (v : α) : ∃ before after : Table α,
    table.insert key v = before ++ (key, v) :: after ∧ key ∉ before.keys ∧
      ∀ entry ∈ after, entry ∈ table := by
  induction table with
  | nil => exact ⟨[], [], rfl, List.not_mem_nil, fun _ he => he⟩
  | cons first rest ih =>
    obtain ⟨k, w⟩ := first
    rw [insert]
    split
    · next heq =>
      subst heq
      exact ⟨[], rest, rfl, List.not_mem_nil, fun _ he => List.mem_cons_of_mem _ he⟩
    · next hne =>
      obtain ⟨before, after, hinsert, hbefore, hafter⟩ := ih
      refine ⟨(k, w) :: before, after, by rw [hinsert, List.cons_append], ?_,
        fun entry he => List.mem_cons_of_mem _ (hafter entry he)⟩
      rw [keys, List.map_cons, List.mem_cons, not_or]
      exact ⟨Ne.symm hne, hbefore⟩

/-- An entry after an erasure was there before. -/
theorem mem_of_mem_erase {entry : String × α} (h : entry ∈ table.erase key) : entry ∈ table := by
  induction table with
  | nil => exact h
  | cons first rest ih =>
    obtain ⟨k, w⟩ := first
    rw [erase] at h
    split at h
    · exact List.mem_cons_of_mem _ h
    · rcases List.mem_cons.mp h with hfirst | hrest
      · exact hfirst ▸ List.mem_cons_self
      · exact List.mem_cons_of_mem _ (ih hrest)

theorem keys_nodup_merge (h : table.keys.Nodup) (entries : List (String × α)) :
    (table.merge entries).keys.Nodup := by
  induction entries generalizing table with
  | nil => exact h
  | cons entry rest ih => exact ih (keys_nodup_insert h entry.1 entry.2)

theorem keys_nodup_ofEntries (entries : List (String × α)) : (ofEntries entries).keys.Nodup := by
  refine keys_nodup_merge ?_ entries
  exact List.nodup_nil

theorem mem_of_mem_merge {entries : List (String × α)} {entry : String × α}
    (h : entry ∈ table.merge entries) : entry ∈ table ∨ entry ∈ entries := by
  induction entries generalizing table with
  | nil => exact .inl h
  | cons first rest ih =>
    rcases ih h with hold | hrest
    · rcases mem_of_mem_insert hold with rfl | hold
      · exact .inr List.mem_cons_self
      · exact .inl hold
    · exact .inr (List.mem_cons_of_mem _ hrest)

/-- The entries of a table are among those it was made of. -/
theorem mem_of_mem_ofEntries {entries : List (String × α)} {entry : String × α}
    (h : entry ∈ ofEntries entries) : entry ∈ entries :=
  (mem_of_mem_merge h).resolve_left List.not_mem_nil

/-- A change of every value under its key. -/
def change {β : Type} (f : String → α → β) (table : Table α) : Table β :=
  table.map fun entry => (entry.1, f entry.1 entry.2)

theorem change_cons {β : Type} (f : String → α → β) (k : String) (v : α) (rest : Table α) :
    change f ((k, v) :: rest) = (k, f k v) :: change f rest := rfl

/-- A change of every value goes with a write. -/
theorem change_insert {β : Type} (f : String → α → β) (table : Table α) (key : String) (v : α) :
    change f (table.insert key v) = (change f table).insert key (f key v) := by
  induction table with
  | nil => rfl
  | cons entry rest ih =>
    obtain ⟨k, w⟩ := entry
    rw [insert, change_cons, insert]
    split
    · next heq => rw [change_cons, heq]
    · rw [change_cons, ih]

/-- Reading after a change of every value. -/
theorem get?_change {β : Type} (f : String → α → β) (table : Table α) (key : String) :
    (change f table).get? key = (table.get? key).map (f key) := by
  induction table with
  | nil => rfl
  | cons entry rest ih =>
    obtain ⟨k, v⟩ := entry
    rw [change_cons, get?, get?]
    split
    · next heq => rw [heq, Option.map_some]
    · exact ih

theorem map_insert {β : Type} (table : Table α) (f : α → β) (key : String) (v : α) :
    (table.insert key v).map (fun entry => (entry.1, f entry.2)) =
      insert (table.map fun entry => (entry.1, f entry.2)) key (f v) :=
  change_insert (fun _ => f) table key v

theorem get?_map {β : Type} (table : Table α) (f : α → β) (key : String) :
    get? (table.map fun entry => (entry.1, f entry.2)) key = (table.get? key).map f :=
  get?_change (fun _ => f) table key

theorem contains_congr (h : table.get? key = other.get? key) :
    table.contains key = other.contains key := by
  rw [contains, h, contains]

theorem insert_eq_append (h : key ∉ table.keys) (v : α) :
    table.insert key v = table ++ [(key, v)] := by
  induction table with
  | nil => rfl
  | cons entry rest ih =>
    obtain ⟨k, w⟩ := entry
    rw [keys, List.map_cons, List.mem_cons, not_or] at h
    rw [insert, if_neg (Ne.symm h.1), ih h.2, List.cons_append]

/-- Entries with new and distinct keys are added at the end. -/
theorem merge_eq_append (h : (table ++ other).keys.Nodup) : table.merge other = table ++ other := by
  induction other generalizing table with
  | nil => exact (List.append_nil table).symm
  | cons entry rest ih =>
    obtain ⟨k, v⟩ := entry
    have hnew : k ∉ table.keys := by
      intro hk
      rw [keys, List.map_append, List.nodup_append] at h
      exact h.2.2 k hk k List.mem_cons_self rfl
    have hinsert := insert_eq_append hnew v
    have hsplit : table ++ (k, v) :: rest = table.insert k v ++ rest := by
      rw [hinsert, List.append_assoc, List.singleton_append]
    rw [hsplit] at h ⊢
    exact ih h

/-- **Entries with distinct keys are a table as they are.** -/
theorem ofEntries_eq (h : table.keys.Nodup) : ofEntries table = table := merge_eq_append h

/-! ## Without a key -/

/-- The table without any entry of a key. -/
def without (name : String) (table : Table α) : Table α := table.filter fun entry => entry.1 ≠ name

theorem mem_without {entry : String × α} :
    entry ∈ table.without name ↔ entry ∈ table ∧ entry.1 ≠ name := by
  rw [without, List.mem_filter, decide_eq_true_eq]

theorem without_cons_self (v : α) (table : Table α) :
    without name ((name, v) :: table) = table.without name :=
  List.filter_cons_of_neg (by simp)

theorem without_cons_of_ne (h : key ≠ name) (v : α) (table : Table α) :
    without name ((key, v) :: table) = (key, v) :: table.without name :=
  List.filter_cons_of_pos (by simpa using h)

theorem get?_without_of_ne (h : key ≠ name) (table : Table α) :
    (table.without name).get? key = table.get? key := by
  induction table with
  | nil => rfl
  | cons entry rest ih =>
    obtain ⟨k, v⟩ := entry
    by_cases hk : k = name
    · subst hk
      rw [without_cons_self, ih, get?, if_neg (Ne.symm h)]
    · rw [without_cons_of_ne hk, get?, get?, ih]

theorem get?_without_self (table : Table α) : (table.without name).get? name = none := by
  rw [get?_eq_none_iff, keys, List.mem_map]
  rintro ⟨entry, hentry, hname⟩
  exact (mem_without.mp hentry).2 hname

/-- A key that stays is written all the same. -/
theorem without_insert (h : key ≠ name) (table : Table α) (v : α) :
    (table.insert key v).without name = (table.without name).insert key v := by
  induction table with
  | nil => exact without_cons_of_ne h v []
  | cons entry rest ih =>
    obtain ⟨k, w⟩ := entry
    by_cases hk : k = name
    · subst hk
      rw [insert, if_neg (Ne.symm h), without_cons_self, without_cons_self, ih]
    · by_cases hkey : k = key
      · subst hkey
        rw [insert, if_pos rfl, without_cons_of_ne hk, without_cons_of_ne hk, insert, if_pos rfl]
      · rw [insert, if_neg hkey, without_cons_of_ne hk, without_cons_of_ne hk, insert, if_neg hkey,
          ih]

end ChatFlow.Table
