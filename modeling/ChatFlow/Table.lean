/-!
# Ordered tables

Text-keyed entries in order of first insertion. Writing a known key keeps its place, a new key
goes to the end, and erasing keeps the order of the rest.

* `Table.get?_insert` — reading after a write;
* `Table.keys_insert`, `Table.keys_erase` — what happens to the keys and their order.
-/

namespace ChatFlow

/-- **An ordered table.** Keys are met from the left; writers keep them distinct. -/
abbrev Table (α : Type) := List (String × α)

namespace Table

variable {α : Type}

/-- The value under a key. -/
def get? : Table α → String → Option α
  | [], _ => none
  | (k, v) :: rest, key => if k = key then some v else get? rest key

/-- Whether the key has an entry. -/
def contains (table : Table α) (key : String) : Bool := (table.get? key).isSome

/-- The table with the key's value written. -/
def insert : Table α → String → α → Table α
  | [], key, value => [(key, value)]
  | (k, v) :: rest, key, value =>
    if k = key then (k, value) :: rest else (k, v) :: insert rest key value

/-- The table without the key. -/
def erase : Table α → String → Table α
  | [], _ => []
  | (k, v) :: rest, key => if k = key then rest else (k, v) :: erase rest key

/-- The keys in order. -/
def keys (table : Table α) : List String := table.map Prod.fst

/-- All entries of the second table written into the first. -/
def merge (table other : Table α) : Table α := other.foldl (fun t e => t.insert e.1 e.2) table

/-- The table of a list of entries, the last of equal keys winning in the first one's place. -/
def ofEntries (entries : List (String × α)) : Table α := merge [] entries

theorem get?_insert (table : Table α) (key other : String) (value : α) :
    (table.insert key value).get? other = if key = other then some value else table.get? other := by
  induction table with
  | nil => rfl
  | cons entry rest ih =>
    obtain ⟨k, v⟩ := entry
    by_cases hk : k = key
    · subst hk
      by_cases ho : k = other <;> simp [insert, get?, ho]
    · by_cases ho : k = other
      · subst ho
        simp [insert, get?, hk, Ne.symm hk]
      · simp [insert, get?, hk, ho, ih]

theorem keys_insert (table : Table α) (key : String) (value : α) :
    (table.insert key value).keys = if key ∈ table.keys then table.keys else table.keys ++ [key] := by
  induction table with
  | nil => rfl
  | cons entry rest ih =>
    obtain ⟨k, v⟩ := entry
    by_cases hk : k = key
    · subst hk
      simp [insert, keys]
    · simp only [insert, hk, if_false, keys, List.map_cons, List.mem_cons, Ne.symm hk, false_or]
      simp only [keys] at ih
      rw [ih]
      by_cases hm : key ∈ rest.map Prod.fst <;> simp [hm]

theorem keys_nodup_insert {table : Table α} (h : table.keys.Nodup) (key : String) (value : α) :
    (table.insert key value).keys.Nodup := by
  rw [keys_insert]
  by_cases hm : key ∈ table.keys
  · rwa [if_pos hm]
  · rw [if_neg hm, List.nodup_append]
    refine ⟨h, by simp, ?_⟩
    intro k hk other ho
    rw [List.mem_singleton] at ho
    subst ho
    exact fun heq => hm (heq ▸ hk)

theorem get?_insert_of_ne (table : Table α) {key other : String} (h : key ≠ other) (value : α) :
    (table.insert key value).get? other = table.get? other := by
  rw [get?_insert, if_neg h]

theorem get?_erase_of_ne (table : Table α) {key other : String} (h : key ≠ other) :
    (table.erase key).get? other = table.get? other := by
  induction table with
  | nil => rfl
  | cons entry rest ih =>
    obtain ⟨k, v⟩ := entry
    by_cases hk : k = key
    · subst hk
      simp [erase, get?, h]
    · by_cases ho : k = other
      · subst ho
        simp [erase, get?, hk]
      · simp [erase, get?, hk, ho, ih]

theorem keys_erase (table : Table α) (key : String) :
    (table.erase key).keys = table.keys.erase key := by
  induction table with
  | nil => rfl
  | cons entry rest ih =>
    obtain ⟨k, v⟩ := entry
    by_cases hk : k = key
    · subst hk
      simp [erase, keys]
    · simp only [keys] at ih
      simp [erase, keys, hk, ih]

end Table

end ChatFlow
