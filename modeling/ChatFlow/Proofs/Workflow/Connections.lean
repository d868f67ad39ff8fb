import ChatFlow.Proofs.Checks
import ChatFlow.Proofs.Results
import ChatFlow.Proofs.Json.Documents
import ChatFlow.Workflow.Document

/-!
# Connections loaded again

A connection is read under the names of either editor, with its port in one of several spellings. It
is written under one name and in one spelling, and read from that as it was.

* `portOf_portOf` — the spelling of a port is settled at once;
* `Connection.settled_of_read` — **a connection that was read has its port in its own spelling**;
* `Connection.Settled.read_toValue` — **such a connection is read from its document as it was**.
-/

namespace ChatFlow

open Schema

/-! ## Ports -/

theorem portOf_portOf (s : String) : portOf (portOf s) = portOf s := by
  by_cases hone : s = "output" ∨ s = "output-1" ∨ s = "output-2"
  · rcases hone with rfl | rfl | rfl <;> rfl
  · simp only [not_or] at hone
    have hself : portOf s = s := by simp [portOf, hone.1, hone.2.1, hone.2.2]
    rw [hself, hself]

theorem portOf_ne_empty {s : String} (h : s ≠ "") : portOf s ≠ "" := by
  by_cases hone : s = "output" ∨ s = "output-1" ∨ s = "output-2"
  · rcases hone with rfl | rfl | rfl <;> decide
  · simp only [not_or] at hone
    simpa [portOf, hone.1, hone.2.1, hone.2.2] using h

theorem Double.text_ne_empty (x : Double) : x.text ≠ "" := by
  cases x with
  | nan => decide
  | infinity negative => cases negative <;> decide
  | finite negative m e =>
    have hbody : finiteText negative m e ≠ [] := by
      simp only [finiteText, positional, scientific]
      split_ifs <;> simp
    intro h
    exact hbody (String.ofList_inj.mp h)

theorem Value.literal_ne_empty {v : Value} {s : List Char} (h : v.literal = .ok s) : s ≠ [] := by
  cases v with
  | null =>
    obtain rfl := Except.ok.inj h
    decide
  | bool b =>
    obtain rfl := Except.ok.inj h
    cases b <;> decide
  | number n =>
    obtain ⟨text, htext, rfl⟩ := exists_of_map_ok h
    cases n with
    | int n =>
      rw [Number.literal, Number.intText?] at htext
      split at htext
      · obtain rfl := Except.ok.inj htext
        rw [intText]
        split
        · simp
        · simpa using natDigits_ne_nil n.natAbs
      · cases htext
    | double x =>
      obtain rfl := Except.ok.inj htext
      simpa using x.text_ne_empty
  | text t =>
    obtain rfl := Except.ok.inj h
    simp [quoteText]
  | bytes data =>
    obtain rfl := Except.ok.inj h
    simp [quoteBytes]
  | list items =>
    obtain ⟨parts, -, h⟩ := exists_of_bind_ok h
    obtain rfl := Except.ok.inj h
    simp [bracketed]
  | tuple items =>
    obtain ⟨parts, -, h⟩ := exists_of_bind_ok h
    split at h <;> obtain rfl := Except.ok.inj h <;> simp [bracketed]
  | object fields =>
    obtain ⟨parts, -, h⟩ := exists_of_bind_ok h
    obtain rfl := Except.ok.inj h
    simp [bracketed]

/-- A value that is present has a text that is not empty. -/
theorem Value.show_ne_empty {v : Value} {s : String} (hv : v.present = true)
    (h : v.show? = .ok s) : s ≠ "" := by
  unfold Value.show? at h
  split at h
  · next t =>
    obtain rfl := Except.ok.inj h
    simpa [Value.present] using hv
  · obtain ⟨text, htext, rfl⟩ := exists_of_map_ok h
    intro hempty
    exact literal_ne_empty htext (String.ofList_inj.mp hempty)

/-! ## Connections -/

/-- **A connection with its port in its own spelling.** -/
def Connection.Settled (c : Connection) : Prop := c.port ≠ "" ∧ portOf c.port = c.port

namespace Connection

theorem firstPresent_present (data : Table Value) (keys : List String) {default : String}
    (h : default ≠ "") : (firstPresent data keys default).present = true := by
  unfold firstPresent
  rcases hfound : (keys.filterMap data.get?).find? Value.present with _ | v
  · simpa [Value.present] using h
  · exact List.find?_some hfound

theorem settled_of_read {v : Value} {c : Connection} (h : read v = .ok c) : c.Settled := by
  obtain ⟨data, -, h⟩ := exists_of_bind_ok h
  obtain ⟨port, hport, h⟩ := exists_of_bind_ok h
  rw [eq_of_finish h]
  have hpresent := firstPresent_present data ["from_output", "port"]
    (show successPort ≠ "" by decide)
  exact ⟨portOf_ne_empty (Value.show_ne_empty hpresent (ok_of_mapError_ok hport)),
    portOf_portOf port⟩

/-- The name of a node, or its absence where the name is empty. -/
theorem firstPresent_text {data : Table Value} {key other s : String}
    (hkey : data.get? key = some (.text s)) (hother : data.get? other = none) :
    firstPresent data [key, other] "" = .text s := by
  by_cases hs : s = ""
  · simp [firstPresent, hkey, hother, hs, Value.present]
  · simp [firstPresent, hkey, hother, hs, Value.present]

/-- **A settled connection is read from its document as it was.** -/
theorem Settled.read_toValue {c : Connection} (h : c.Settled) : read c.toValue = .ok c := by
  have hport : firstPresent [("from_node", .text c.source), ("to_node", .text c.target),
      ("from_output", .text c.port)] ["from_output", "port"] successPort = .text c.port := by
    simp [firstPresent, Table.get?, Value.present, h.1]
  have hsource : firstPresent [("from_node", .text c.source), ("to_node", .text c.target),
      ("from_output", .text c.port)] ["from_node", "from"] "" = .text c.source :=
    firstPresent_text rfl rfl
  have htarget : firstPresent [("from_node", .text c.source), ("to_node", .text c.target),
      ("from_output", .text c.port)] ["to_node", "to"] "" = .text c.target :=
    firstPresent_text rfl rfl
  unfold read toValue record
  simp only [bind, Except.bind]
  rw [hport, hsource, htarget]
  change Except.ok (⟨c.source, c.target, portOf c.port⟩ : Connection) = .ok c
  rw [h.2]

theorem storable_toValue (kind : Number → Prop) (c : Connection) :
    Json.Storable kind c.toValue := by
  refine .object (by simp [Table.keys]) ?_
  simp only [List.forall_mem_cons]
  exact ⟨.text _, .text _, .text _, List.forall_mem_nil _⟩

end Connection

end ChatFlow
