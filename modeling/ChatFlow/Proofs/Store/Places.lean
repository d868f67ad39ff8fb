import ChatFlow.Proofs.Acts
import ChatFlow.Proofs.Engine.Conduct

/-!
# Places of stored values

A storing node is about one place: the value of the user under its key, or the value for everybody
under it.

* `Store.SameBut` — two stores are the same but for one place;
* `Conduct.leavingStore` — stored values stay as they are, `Conduct.within` — all of them but one do;
* `Storage.run_sameBut` — **a storing node changes its own place**, and no other.
-/

namespace ChatFlow

/-! ## One place of a store -/

/-- **Two stores are the same but for one place**: the value of a user under a key, or the value for
everybody under it. -/
def Store.SameBut (scope : StorageScope) (user key : String) (s t : Store) : Prop :=
  match scope with
  | .user => t.globals = s.globals ∧
      (∀ other, user ≠ other → t.users.get? other = s.users.get? other) ∧
      ∀ name, key ≠ name → (t.record user).get? name = (s.record user).get? name
  | .everyone => t.users = s.users ∧
      ∀ name, key ≠ name → t.globals.get? name = s.globals.get? name

namespace Store.SameBut

variable {scope : StorageScope} {user key : String} {s t u : Store}

theorem refl (s : Store) : SameBut scope user key s s := by
  cases scope with
  | user => exact ⟨rfl, fun _ _ => rfl, fun _ _ => rfl⟩
  | everyone => exact ⟨rfl, fun _ _ => rfl⟩

theorem trans (hst : SameBut scope user key s t) (htu : SameBut scope user key t u) :
    SameBut scope user key s u := by
  cases scope with
  | user =>
    obtain ⟨hglobals, hothers, hrecord⟩ := hst
    obtain ⟨hglobals', hothers', hrecord'⟩ := htu
    exact ⟨hglobals'.trans hglobals, fun other hne => (hothers' other hne).trans (hothers other hne),
      fun name hne => (hrecord' name hne).trans (hrecord name hne)⟩
  | everyone =>
    obtain ⟨husers, hglobals⟩ := hst
    obtain ⟨husers', hglobals'⟩ := htu
    exact ⟨husers'.trans husers, fun name hne => (hglobals' name hne).trans (hglobals name hne)⟩

/-- A record that is written under one key. -/
theorem withRecord {record : Table Value}
    (h : ∀ name, key ≠ name → record.get? name = (s.record user).get? name) :
    SameBut .user user key s (s.withRecord user record) := by
  refine ⟨rfl, fun other hne => Table.get?_insert_of_ne _ hne _, fun name hne => ?_⟩
  rw [Store.record_withRecord, if_pos rfl, h name hne]

end Store.SameBut

/-! ## Conducts of stored values -/

namespace Conduct

/-- **Stored values stay as they are.** -/
def leavingStore : Conduct where
  leads u v := v.store = u.store
  hangs := True
  refl _ := rfl
  trans huv hvw := hvw.trans huv

theorem permits_leavingStore : leavingStore.Permits where
  context _ _ := rfl
  dice _ _ := rfl
  patterns _ _ := rfl
  network _ _ _ := rfl
  sleeps _ _ := rfl
  log _ _ := rfl
  disk _ _ := rfl

/-- **Stored values stay as they are**, all but one. -/
def within (scope : StorageScope) (user key : String) : Conduct where
  leads u v := Store.SameBut scope user key u.store v.store
  hangs := True
  refl w := .refl w.store
  trans := .trans

variable (scope : StorageScope) (user key : String)

theorem permits_within : (within scope user key).Permits where
  context w _ := .refl w.store
  dice w _ := .refl w.store
  patterns w _ := .refl w.store
  network w _ _ := .refl w.store
  sleeps w _ := .refl w.store
  log w _ := .refl w.store
  disk w _ := .refl w.store

/-- **An operation on a stored value** stays with it. -/
theorem within_perform (p : StorageParams) (o : Occasion) (value : String)
    (operation : Storage.Operation) :
    (Storage.perform scope p o.event.userId key value operation).Keeps
      (within scope o.event.userId key) := by
  have hpermits := permits_within scope o.event.userId key
  refine (hpermits.inward o.event.userId).operate (fun hscope => ?_) (fun hscope => ?_) p value _
  · subst hscope
    exact hpermits.owning fun w record hrecord => .withRecord hrecord
  · subst hscope
    exact hpermits.sharing fun w globals hglobals => ⟨rfl, hglobals⟩

end Conduct

/-! ## Storing nodes -/

/-- **A storing node changes its own place**, and no other: the one under its rendered key. -/
theorem Storage.run_sameBut (scope : StorageScope) (p : StorageParams) (o : Occasion) (w : World) :
    (Storage.run scope p o w).2.store = w.store ∨
      ∃ key, key ≠ "" ∧ (Template.render o p.key w).1 = .done key ∧
        Store.SameBut scope o.event.userId key w.store (Storage.run scope p o w).2.store := by
  have hrender (template : String) (u : World) :
      (Template.render o template u).2.store = u.store :=
    ((Conduct.permits_leavingStore.inward o.event.userId).render template u).1
  have hkeyed := hrender p.key w
  rw [Storage.run]
  rcases hkey : Template.render o p.key w with ⟨key | f | _, t⟩ <;> rw [hkey] at hkeyed
  · rw [Act.run_bind_done hkey]
    dsimp only
    split
    · exact .inl hkeyed
    · next hnamed =>
      refine .inr ⟨key, hnamed, rfl, ?_⟩
      rw [← hkeyed]
      -- what follows is about the rendered key, whatever it comes to
      have hpermits := Conduct.permits_within scope o.event.userId key
      refine (Act.Keeps.bind ((hpermits.inward o.event.userId).render p.value) (fun value => ?_) t).1
      split
      · exact .pure _
      · exact .bind (Conduct.within_perform scope key p o value _) fun _ => hpermits.assign _ _
  · rw [Act.run_bind_failed hkey]
    exact .inl hkeyed
  · rw [Act.run_bind_hung hkey]
    exact .inl hkeyed

end ChatFlow
