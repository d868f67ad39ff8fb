import ChatFlow.Proofs.Checks
import ChatFlow.Proofs.Json.Bytes
import ChatFlow.Proofs.Results
import ChatFlow.Service.Endpoint

/-!
# Requests without the password

What a request holds, and what becomes of one that needs the master password and does not carry it.

* `Request.storable_entries` — the entries of a body can be held by a document, and
  `Request.entries_of_write` — a body that was written is read as the entries it was written from;
* `Request.Carries` — whether a request carries a password, in its query or in its body;
* `Host.guarded_of_wrong` — **what is guarded is not done for a request that does not carry the
  password**.
-/

namespace ChatFlow.Service

open Schema

/-- The endpoints of one task, which is told by its id. -/
def Endpoint.ofTask : List Endpoint := [.deleteTask, .toggleTask, .runTask]

namespace Request

/-! ## Bodies -/

/-- The entries of a body do not depend on what would be said of another body. -/
theorem entriesOr_of_ok {r : Request} {kind : String} {entries : Table Value}
    (h : r.entriesOr kind = .ok entries) : r.entries = .ok entries := by
  obtain ⟨body, hbody, h⟩ := exists_of_bind_ok h
  rw [Request.entries, entriesOr, hbody]
  rcases body with _ | v | _
  · cases h
  · cases v with
    | object fields => exact h
    | _ => cases h
  · cases h

/-- A record that was read is that of the entries. -/
theorem exists_of_read {α : Type} {r : Request} {record : Table Value → Checked α} {a : α}
    (h : r.read record = .ok a) : ∃ entries, r.entries = .ok entries ∧ record entries = .ok a := by
  obtain ⟨entries, hentries, h⟩ := exists_of_bind_ok h
  exact ⟨entries, entriesOr_of_ok hentries, ok_of_mapError_ok h⟩

theorem storable_of_readBody {r : Request} {v : Value} (h : r.readBody = .ok (.document v)) :
    Json.Storable Number.Writable v := by
  unfold readBody at h
  split at h
  · cases h
  · split at h
    · cases h
    · split at h
      · cases h
      · next hread =>
        obtain rfl := Body.document.inj (Except.ok.inj h)
        exact Json.storable_of_shown_readBytes (by rw [hread]; rfl)
      · next hread =>
        obtain rfl := Body.document.inj (Except.ok.inj h)
        exact Json.storable_of_shown_readBytes (by rw [hread]; rfl)
      · cases h
      · cases h
      · cases h

/-- **The entries of a body can be held by a document.** -/
theorem storable_entries {r : Request} {entries : Table Value} (h : r.entries = .ok entries) :
    Json.Storable Number.Writable (.object entries) := by
  obtain ⟨body, hbody, h⟩ := exists_of_bind_ok h
  rcases body with _ | v | _
  · cases h
  · cases v with
    | object fields =>
      obtain rfl := Except.ok.inj h
      exact storable_of_readBody hbody
    | _ => cases h
  · cases h

/-- **A body that is read as a map** has its entries. -/
theorem entries_of_readBytes {r : Request} {entries : Table Value} (hjson : r.hasJson = true)
    (hbody : Json.readBytes r.body = some (.ok (.object entries))) : r.entries = .ok entries := by
  have hdocument : r.readBody = .ok (.document (.object entries)) := by
    rw [readBody, hjson, hbody]
    split
    · next hempty =>
      rw [List.isEmpty_iff.mp hempty] at hbody
      cases hbody
    · rfl
  rw [Request.entries, entriesOr, hdocument]
  rfl

/-- **A body that is the written form of a map** holds the entries of the map. -/
theorem entries_of_write {r : Request} {content : String} {layout : Json.Layout}
    (hlayout : layout.Readable) {entries : Table Value} (hexact : Json.Exact (.object entries))
    (hcontent : Json.write layout (.object entries) = .ok content)
    (hjson : r.hasJson = true) (hbody : r.body = Utf8.encode content.toList) :
    r.entries = .ok entries := by
  refine entries_of_readBytes hjson ?_
  rw [hbody, Json.readBytes_encode hlayout hexact hcontent]

/-! ## Passwords -/

/-- Whether a request is about one task. Numbers in such a request are taken for text. -/
def IsAboutTask (r : Request) : Prop := ∃ e ∈ Endpoint.ofTask, r.target.path = e.path

/-- **Whether a request carries a password**, in its query or in its body. A number stands for a
password only where it is taken for text. -/
def Carries (r : Request) (password : String) : Prop :=
  r.target.query.get? passwordKey = some password ∨
    ∃ entries v, r.entries = .ok entries ∧ entries.get? passwordKey = some v ∧
      (v = .text password ∨ r.IsAboutTask ∧ text v = .ok password)

end Request

theorem opens_eq_false {settings : Settings} (hset : settings.masterPassword ≠ "") {v : Value}
    (h : v ≠ .text settings.masterPassword) : Gate.opens settings v = false := by
  cases v with
  | text s =>
    have hother : s ≠ settings.masterPassword := fun heq => h (congrArg Value.text heq)
    simp [Gate.opens, hset, hother]
  | _ => simp [Gate.opens, hset]

section

variable {host : Host} {r : Request} (hr : ¬ r.Carries host.settings.masterPassword)

include hr

/-- The password in the entries of the body is not the right one. -/
theorem password_ne_of_entries {entries : Table Value} (h : r.entries = .ok entries) :
    Value.orNull (entries.get? passwordKey) ≠ .text host.settings.masterPassword := by
  intro heq
  rcases hv : entries.get? passwordKey with _ | v
  · rw [hv] at heq
    cases heq
  · rw [hv] at heq
    exact hr (.inr ⟨entries, v, h, hv, .inl heq⟩)

variable (hset : host.settings.masterPassword ≠ "")

include hset

/-- Neither is the one that is read from a request about a task. -/
theorem password_ne_of_read (htask : r.IsAboutTask) {request : IdRequest}
    (h : r.read IdRequest.read = .ok request) :
    Value.text request.password ≠ .text host.settings.masterPassword := by
  intro heq
  obtain ⟨entries, hentries, hread⟩ := Request.exists_of_read h
  have hpassword := Value.text.inj heq
  rw [eq_of_finish hread] at hpassword
  rcases optional_cases entries passwordKey text "" (optional entries "id" text "" []).2 with
    hblank | ⟨v, hv, htext⟩
  · exact hset (hpassword.symm.trans hblank)
  · have hsame : text v = .ok host.settings.masterPassword :=
      htext.trans (congrArg Except.ok hpassword)
    exact hr (.inr ⟨entries, v, hentries, hv, .inr ⟨htask, hsame⟩⟩)

/-- **What is guarded is not done** for a request that does not carry the password. -/
theorem Host.guarded_of_wrong {body : Value} (hbody : body ≠ .text host.settings.masterPassword)
    (act : Endeavour) : host.guarded r body act = pure Reply.locked := by
  have hquery : r.password ≠ .text host.settings.masterPassword := by
    intro heq
    rw [Request.password] at heq
    split at heq
    · next s hs => exact hr (.inl (hs.trans (congrArg some (Value.text.inj heq))))
    · cases heq
  rw [guarded, if_neg]
  rw [Bool.not_eq_true]
  split
  · exact opens_eq_false hset hbody
  · exact opens_eq_false hset hquery

end

end ChatFlow.Service
