import ChatFlow.Proofs.Engine.Nodes
import ChatFlow.Proofs.Walk.Entry

/-!
# The conduct of walks

A conduct that every node keeps is kept by walks and runs, whatever the graph. Two conducts are of
use for all of them:

* `Conduct.prompt` — nothing hangs but calls to a platform that hangs;
* `Conduct.recording` — notes are only ever added.
-/

namespace ChatFlow

/-- A platform that answers every call, be it with a refusal. -/
def Platform.Answers (p : Platform) : Prop := ∀ before call, p.respond before call ≠ .hangs

theorem Loop.answers_willing : Loop.willing.Answers := fun _ _ => nofun

theorem Loop.answers_unwilling : Loop.unwilling.Answers := fun _ _ => nofun

namespace Conduct

/-- Anything, as long as only calls to the platform hang. -/
def prompt (p : Platform) : Conduct where
  leads _ _ := True
  hangs := ¬ p.Answers
  refl _ := trivial
  trans _ _ := trivial

/-- Notes are only ever added. -/
def recording : Conduct where
  leads u v := u.log <+: v.log
  hangs := True
  refl w := List.prefix_refl w.log
  trans := List.IsPrefix.trans

theorem frees_prompt (p : Platform) : (prompt p).Frees p where
  context _ _ := trivial
  dice _ _ := trivial
  patterns _ _ := trivial
  network _ _ _ := trivial
  sleeps _ _ := trivial
  log _ _ := trivial
  store _ _ := trivial
  disk _ _ := trivial
  calls _ _ := trivial
  hangs before call hr ha := ha before call hr

theorem frees_recording (p : Platform) : recording.Frees p where
  context w _ := List.prefix_refl w.log
  dice w _ := List.prefix_refl w.log
  patterns w _ := List.prefix_refl w.log
  network w _ _ := List.prefix_refl w.log
  sleeps w _ := List.prefix_refl w.log
  log w _ := List.prefix_append w.log _
  store w _ := List.prefix_refl w.log
  disk w _ := List.prefix_refl w.log
  calls w _ := List.prefix_refl w.log
  hangs _ _ _ := trivial

end Conduct

/-! ## Walks -/

namespace Walk

variable {c : Conduct} {platform : Platform} {w : Workflow} {perform : Node → Act World Bool}
  {limits : Limits} {walk : Walk}

theorem leads_stopAt (h : c.Frees platform) (workflow id : String) (depth : Nat) :
    c.leads walk.world (stopAt workflow id depth walk).2.world := by
  unfold stopAt
  split
  · exact c.refl _
  · exact h.log walk.world _

theorem keeps_attend (h : c.Frees platform) {node : Node} (hp : (perform node).Keeps c)
    {id : String} {ending : Outcome Bool} {after : Walk} (ha : attend w perform id node walk = (ending, after)) :
    c.leads walk.world after.world ∧ (ending = .hung → c.hangs) := by
  have hw := hp walk.world
  rw [run_attend, run_work] at ha
  dsimp only at ha
  rcases hn : perform node walk.world with ⟨_ | _ | _, world⟩ <;> rw [hn] at ha hw <;>
    obtain ⟨rfl, rfl⟩ := Prod.mk.inj ha
  · exact ⟨hw.1, nofun⟩
  · exact ⟨c.trans hw.1 (h.log world _), nofun⟩
  · exact ⟨hw.1, fun _ => hw.2 rfl⟩

/-- **A walk keeps to the conduct of its nodes.** -/
theorem Course.keeps {stack : List Pending} {vs : List Visit} {ending : Outcome Unit} {last : Walk}
    (hc : Course w perform limits stack walk vs ending last) (h : c.Frees platform)
    (hp : ∀ node, (perform node).Keeps c) :
    c.leads walk.world last.world ∧ (ending = .hung → c.hangs) := by
  induction hc with
  | finished walk => exact ⟨c.refl _, nofun⟩
  | unknown hn rest ih => exact ih
  | refused hn hr rest ih => exact ⟨c.trans (leads_stopAt h _ _ _) ih.1, ih.2⟩
  | hung hn ha hw =>
    obtain ⟨hl, hh⟩ := keeps_attend h (hp _) hw
    exact ⟨hl, fun _ => hh rfl⟩
  | entered hn ha hw rest ih =>
    obtain ⟨hl, -⟩ := keeps_attend h (hp _) hw
    exact ⟨c.trans hl ih.1, ih.2⟩

end Walk

/-! ## Runs -/

namespace Entry

theorem surface_scene (e : Entry) (scene : Scene) : (e.scene scene).surface = scene.surface := by
  cases e <;> rfl

end Entry

namespace Conduct.Frees

variable {c : Conduct} {scene : Scene} (h : c.Frees scene.surface.platform)

include h

theorem first (text : String) (nodes : List Node) : (Trigger.first text nodes).Keeps c := by
  induction nodes with
  | nil => exact .pure _
  | cons node rest ih =>
    unfold Trigger.first
    split
    · refine .bind (h.fires _ _) fun fired => ?_
      cases fired with
      | none => exact ih
      | some captures => exact .pure _
    · exact ih

theorem departure (e : Entry) (w : Workflow) : (e.departure scene w).Keeps c := by
  cases e with
  | clock => exact .pure _
  | message =>
    refine .bind (h.first _ _) fun found => ?_
    cases found with
    | none => exact .pure _
    | some found => exact .pure _

theorem performIn_entry (e : Entry) (node : Node) :
    (Walk.performIn (e.scene scene) node).Keeps c :=
  Conduct.Frees.performIn (by rwa [e.surface_scene]) node

/-- **A run keeps to the conduct of its nodes.** -/
theorem entryRun (e : Entry) (w : Workflow) : (e.run scene w).Keeps c := by
  intro world
  have hd := h.departure e w world
  rcases he : e.departure scene w world with ⟨(_ | d) | f | _, world'⟩ <;> rw [he] at hd
  case done.none =>
    rw [Entry.run_eq, Act.run_bind_done he]
    exact ⟨hd.1, nofun⟩
  case done.some =>
    obtain ⟨ending, last, hc, hr⟩ := Entry.course_of_departure he
    have hk := hc.keeps h (h.performIn_entry e)
    -- between the departure and the first visit, only the variables are set up
    rw [hr]
    refine ⟨c.trans hd.1 (c.trans (h.context world' _) hk.1), fun hh => hk.2 ?_⟩
    cases ending with
    | hung => rfl
    | done _ => cases hh
    | failed _ => cases hh
  case failed =>
    rw [Entry.run_eq, Act.run_bind_failed he]
    exact ⟨hd.1, nofun⟩
  case hung =>
    rw [Entry.run_eq, Act.run_bind_hung he]
    exact ⟨hd.1, fun _ => hd.2 rfl⟩

end Conduct.Frees

end ChatFlow
