import ChatFlow.Disk
import ChatFlow.Proofs.Tables
import ChatFlow.Store.File

/-!
# Files read back

What is read after a write, and that other files stay as they were.

* `Disk.read_of_replace` — **a file that was put into its place is read as it was written**;
* `Disk.get?_of_replace_failed` — a replacement that failed leaves the file as it was;
* `Disk.Stamped` — the next stamp is new, and stays so;
* `Disk.get?_replace_of_ne`, `Store.get?_save_of_ne` — other files are not touched.
-/

namespace ChatFlow

namespace Disk

/-- **How a replacement goes.** -/
theorem replace_eq (d : Disk) (draft target content : String) :
    d.replace draft target content =
      let bytes := Utf8.encode content.toList
      let written := d.put draft (.file bytes)
      if d.refuses draft then (false, d)
      else if written.refuses target then (false, written)
      else (true, { written with
        entries := (written.entries.erase draft).insert target (.file bytes d.clock) }) := by
  have hdraft (bytes : List UInt8) :
      (d.put draft (.file bytes)).entries.get? draft = some (.file bytes d.clock) := by
    rw [put, Table.get?_insert, if_pos rfl]
  dsimp only
  unfold replace write
  by_cases hfirst : d.refuses draft = true
  · rw [if_pos hfirst, if_pos hfirst]
  · rw [if_neg hfirst, if_neg hfirst]
    simp only [rename, hdraft]
    by_cases hsecond :
        (d.put draft (.file (Utf8.encode content.toList))).refuses target = true
    · rw [if_pos hsecond, if_pos hsecond]
    · rw [if_neg hsecond, if_neg hsecond]

/-- A replacement that worked. -/
theorem eq_of_replace {d e : Disk} {draft target content : String}
    (h : d.replace draft target content = (true, e)) :
    e = { d with
      entries := ((d.entries.insert draft (.file (Utf8.encode content.toList) d.clock)).erase
        draft).insert target (.file (Utf8.encode content.toList) d.clock)
      clock := d.clock + 1 } := by
  rw [replace_eq] at h
  dsimp only at h
  split at h
  · cases h
  · split at h
    · cases h
    · exact (Prod.mk.inj h).2.symm

/-- What was put into its place is what is there. -/
theorem read_of_replace {d e : Disk} {draft target content : String}
    (h : d.replace draft target content = (true, e)) :
    e.read target = .content (Utf8.encode content.toList) := by
  rw [eq_of_replace h, read, Table.get?_insert, if_pos rfl]

/-- A replacement that failed leaves the file as it was. -/
theorem get?_of_replace_failed {d e : Disk} {draft target content : String}
    (h : d.replace draft target content = (false, e)) (hne : draft ≠ target) :
    e.entries.get? target = d.entries.get? target := by
  rw [replace_eq] at h
  dsimp only at h
  split at h
  · obtain ⟨-, rfl⟩ := Prod.mk.inj h
    rfl
  · split at h
    · obtain ⟨-, rfl⟩ := Prod.mk.inj h
      rw [put, Table.get?_insert, if_neg hne]
    · cases h

/-! ## Stamps -/

/-- **Whether every stamp was given out** and every name stands there once: the next stamp is
new. -/
structure Stamped (d : Disk) : Prop where
  /-- no name stands there twice -/
  keys : d.entries.keys.Nodup
  /-- stamps are given out in order -/
  past : ∀ entry ∈ d.entries, entry.2.stamp < d.clock

theorem stamped_empty : empty.Stamped := ⟨List.nodup_nil, nofun⟩

section

variable {d : Disk} (h : d.Stamped)

include h

theorem Stamped.stamp_lt {name : String} {s : Nat} (hs : d.stamp? name = some s) : s < d.clock := by
  obtain ⟨entry, hentry, rfl⟩ := Option.map_eq_some_iff.mp hs
  exact h.past (name, entry) (Table.mem_of_get? hentry)

theorem Stamped.put (name : String) {entry : Nat → DiskEntry}
    (hstamp : ∀ s, (entry s).stamp = s) : (d.put name entry).Stamped := by
  refine ⟨Table.keys_nodup_insert h.keys name _, fun e he => ?_⟩
  rcases Table.mem_of_mem_insert he with rfl | hold
  · exact Nat.lt_succ_of_le (Nat.le_of_eq (hstamp d.clock))
  · exact Nat.lt_succ_of_lt (h.past e hold)

theorem Stamped.remove (name : String) : (d.remove name).Stamped :=
  ⟨Table.keys_nodup_erase h.keys name, fun e he => h.past e (Table.mem_of_mem_erase he)⟩

theorem Stamped.replace (draft target content : String) :
    (d.replace draft target content).2.Stamped := by
  have hput : (d.put draft (.file (Utf8.encode content.toList))).Stamped := h.put draft fun _ => rfl
  rw [replace_eq]
  dsimp only
  split
  · exact h
  · split
    · exact hput
    · refine ⟨Table.keys_nodup_insert (Table.keys_nodup_erase hput.keys draft) target _,
        fun e he => ?_⟩
      rcases Table.mem_of_mem_insert he with rfl | hold
      · exact Nat.lt_succ_self d.clock
      · exact hput.past e (Table.mem_of_mem_erase hold)

end

theorem clock_le_replace (d : Disk) (draft target content : String) :
    d.clock ≤ (d.replace draft target content).2.clock := by
  rw [replace_eq]
  dsimp only
  split
  · exact Nat.le_refl d.clock
  · split <;> exact Nat.le_succ d.clock

/-! ## Directories -/

/-- **Whether there are files only.** -/
def Flat (d : Disk) : Prop := ∀ entry ∈ d.entries, ∃ bytes stamp, entry.2 = .file bytes stamp

theorem Flat.isDirectory {d : Disk} (h : d.Flat) (name : String) : d.isDirectory name = false := by
  rw [Disk.isDirectory]
  rcases hentry : d.entries.get? name with _ | entry
  · rfl
  · obtain ⟨bytes, stamp, rfl⟩ := h (name, entry) (Table.mem_of_get? hentry)
    rfl

theorem Flat.refuses {d : Disk} (h : d.Flat) (name : String) :
    d.refuses name = d.locked.contains name := by
  rw [Disk.refuses, h.isDirectory, Bool.false_or]

theorem Flat.put {d : Disk} (h : d.Flat) (name : String) (bytes : List UInt8) :
    (d.put name (.file bytes)).Flat := by
  intro e he
  rcases Table.mem_of_mem_insert he with rfl | hold
  · exact ⟨bytes, d.clock, rfl⟩
  · exact h e hold

theorem Flat.replace {d : Disk} (h : d.Flat) (draft target content : String) :
    (d.replace draft target content).2.Flat := by
  have hput := h.put draft (Utf8.encode content.toList)
  rw [replace_eq]
  dsimp only
  split
  · exact h
  · split
    · exact hput
    · intro e he
      rcases Table.mem_of_mem_insert he with rfl | hold
      · exact ⟨_, d.clock, rfl⟩
      · exact hput e (Table.mem_of_mem_erase hold)

/-- **Where nothing is in the way, a replacement works.** -/
theorem Flat.exists_replace {d : Disk} (h : d.Flat) (hlocked : d.locked = [])
    (draft target content : String) : ∃ e, d.replace draft target content = (true, e) := by
  have hdraft : d.refuses draft = false := by
    rw [h.refuses, hlocked]
    rfl
  have htarget : (d.put draft (.file (Utf8.encode content.toList))).refuses target = false := by
    rw [(h.put draft _).refuses, Disk.put, hlocked]
    rfl
  rw [replace_eq]
  simp [hdraft, htarget]

/-! ## Other files -/

variable {d e : Disk} {name other draft target : String} {bytes : List UInt8}

theorem read_congr (h : e.entries.get? other = d.entries.get? other) :
    e.read other = d.read other := by
  rw [read, read, h]

theorem get?_write_of_ne (hne : name ≠ other) (h : d.write name bytes = some e) :
    e.entries.get? other = d.entries.get? other := by
  unfold write at h
  split at h
  · cases h
  · obtain rfl := Option.some.inj h
    rw [put, Table.get?_insert, if_neg hne]

theorem get?_replace_of_ne (hdraft : draft ≠ other) (htarget : target ≠ other) (content : String) :
    (d.replace draft target content).2.entries.get? other = d.entries.get? other := by
  have hput : (d.put draft (.file (Utf8.encode content.toList))).entries.get? other =
      d.entries.get? other := by
    rw [put, Table.get?_insert, if_neg hdraft]
  rw [replace_eq]
  dsimp only
  split
  · rfl
  · split
    · exact hput
    · rw [Table.get?_insert, if_neg htarget, Table.get?_erase_of_ne _ hdraft, hput]

end Disk

/-- **Stored values are written to files of their own.** -/
theorem Store.get?_save_of_ne (s : Store) (c : Collection) (d : Disk) {other : String}
    (hdraft : c.draft ≠ other) (hfile : c.file ≠ other) :
    (s.save c d).2.entries.get? other = d.entries.get? other := by
  unfold Store.save
  split
  · rcases hwrite : d.write c.draft [] with _ | e
    · rfl
    · exact Disk.get?_write_of_ne hdraft hwrite
  · next content _ =>
    have hreplace := Disk.get?_replace_of_ne hdraft hfile content (d := d)
    split <;> next e hsave => rwa [hsave] at hreplace

end ChatFlow
