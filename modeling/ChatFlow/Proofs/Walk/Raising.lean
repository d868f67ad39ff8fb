import ChatFlow.Proofs.Pattern.Reading
import ChatFlow.Proofs.Walk.Bounds

/-!
# What a pattern may raise

The pattern of a trigger is read when the trigger is asked, and outside of any guard: a fault of
reading it goes up through the trigger and the run. No other fault comes out of a run.

* `Pattern.Cache.Raises`, `Trigger.Raises` — when a look-up and a trigger raise;
* `Pattern.Cache.get_eq_error_iff`, `Trigger.fires_eq_failed_iff`, `Trigger.first_eq_failed_iff`,
  `Entry.run_eq_failed_iff` — and they raise nothing else;
* `Entry.raises_iff` — **what is raised anywhere on the way**, by a look-up, a trigger and a run;
* `Entry.run_ne_failed_of_unstrained` — a workflow whose patterns strain no limit raises nothing;
* `Entry.run_raised` — and one with an oversized count does.
-/

namespace ChatFlow

/-- Where two acts fail, one after the other, the first one does or the second. -/
theorem Act.cases_of_bind_failed {σ α β : Type} {act : Act σ α} {next : α → Act σ β} {s u : σ}
    {f : Fault} (h : (act >>= next) s = (.failed f, u)) :
    act s = (.failed f, u) ∨ ∃ a t, act s = (.done a, t) ∧ next a t = (.failed f, u) := by
  rw [run_bind] at h
  rcases hact : act s with ⟨a | cause | _, t⟩ <;> rw [hact] at h
  · exact .inr ⟨a, t, rfl, h⟩
  · obtain ⟨hcause, rfl⟩ := Prod.mk.inj h
    rw [Outcome.failed.inj hcause]
    exact .inl rfl
  · cases h

/-! ## Look-ups -/

namespace Pattern.Cache

/-- **A look-up raises a fault**: the text is not kept, and it strains a limit. -/
structure Raises (cache : Cache) (text : String) (f : Fault) : Prop where
  /-- the text is not kept -/
  absent : cache.entries.get? text = none
  /-- reading it breaks a limit -/
  broken : parse cache.charNames text = .error (.fault f)
  /-- which the text strains -/
  strained : Strains text.toList f

variable {cache : Cache} {text : String} {f : Fault}

/-- **A look-up raises nothing else**, and otherwise it answers. -/
theorem get_eq_error_iff : cache.get text = .error f ↔ cache.Raises text f := by
  constructor
  · intro h
    rcases hkept : cache.entries.get? text with _ | p
    · rw [get, hkept] at h
      rcases hparse : parse cache.charNames text with (_ | cause) | p
      · rw [hparse] at h
        cases h
      · rw [hparse] at h
        obtain rfl : cause = f := Except.error.inj h
        exact ⟨hkept, hparse, strains_of_parse hparse⟩
      · rw [hparse] at h
        cases h
    · rw [get, hkept] at h
      cases h
  · intro h
    rw [get, h.absent, h.broken]

end Pattern.Cache

theorem World.pattern?_eq_failed_iff {text : String} {world after : World} {f : Fault} :
    World.pattern? text world = (.failed f, after) ↔
      after = world ∧ world.patterns.Raises text f := by
  rw [World.pattern?, ← Pattern.Cache.get_eq_error_iff]
  rcases world.patterns.get text with cause | ⟨p, patterns⟩
  · constructor
    · intro h
      obtain ⟨hcause, rfl⟩ := Prod.mk.inj h
      exact ⟨rfl, congrArg Except.error (Outcome.failed.inj hcause)⟩
    · rintro ⟨rfl, h⟩
      rw [Except.error.inj h]
  · constructor
    · intro h
      cases h
    · rintro ⟨-, h⟩
      cases h

theorem World.pattern?_ne_hung (text : String) (world : World) :
    (World.pattern? text world).1 ≠ .hung := by
  rw [World.pattern?]
  rcases world.patterns.get text with cause | found <;> exact nofun

/-! ## Triggers -/

namespace Trigger

/-- **A trigger looks its pattern up** for a text. -/
structure Asks (p : TriggerParams) (text : String) : Prop where
  /-- the text is not the clock's -/
  called : text ∉ sentinels
  /-- the trigger has a pattern -/
  regex : p.triggerType = "regex"
  /-- which is not blank -/
  written : p.literal ≠ ""

/-- **A trigger raises a fault**: it looks its pattern up, and the look-up raises. -/
structure Raises (p : TriggerParams) (text : String) (world : World) (f : Fault) : Prop where
  /-- it looks the pattern up -/
  asks : Asks p text
  /-- and the look-up raises -/
  pattern : world.patterns.Raises p.literal f

variable {p : TriggerParams} {text : String} {world after : World} {f : Fault}

theorem fires_of_asks (h : Asks p text) :
    fires p text = World.pattern? p.literal >>= fun found =>
      pure (found.bind fun pattern => pattern.captures? text.toList) := by
  have hsentinels : ¬ sentinels.contains text = true := by simpa using h.called
  have hidle : ¬ (clockKinds.contains p.triggerType || decide (p.literal = "")) = true := by
    rw [h.regex]
    simpa [clockKinds] using h.written
  rw [fires, if_neg hsentinels, if_neg hidle]
  simp only [h.regex]
  congr 1
  funext found
  cases found <;> rfl

/-- A trigger that does not look its pattern up answers at once. -/
theorem fires_of_not_asks (h : ¬ Asks p text) : ∃ found, fires p text = pure found := by
  by_cases hsentinels : sentinels.contains text = true
  · exact ⟨some [], by rw [fires, if_pos hsentinels]⟩
  by_cases hidle : (clockKinds.contains p.triggerType || decide (p.literal = "")) = true
  · exact ⟨none, by rw [fires, if_neg hsentinels, if_pos hidle]⟩
  rw [fires, if_neg hsentinels, if_neg hidle]
  split
  case h_5 hregex =>
    have hwritten : p.literal ≠ "" := fun hblank => hidle (by simp [hblank])
    exact absurd ⟨by simpa using hsentinels, hregex, hwritten⟩ h
  all_goals exact ⟨_, rfl⟩

/-- **A trigger raises nothing else**, and what it raises leaves the world as it was. -/
theorem fires_eq_failed_iff :
    fires p text world = (.failed f, after) ↔ after = world ∧ Raises p text world f := by
  by_cases hasks : Asks p text
  · rw [fires_of_asks hasks]
    constructor
    · intro h
      rcases Act.cases_of_bind_failed h with hlook | ⟨found, next, -, hfound⟩
      · obtain ⟨rfl, hraises⟩ := World.pattern?_eq_failed_iff.mp hlook
        exact ⟨rfl, hasks, hraises⟩
      · cases hfound
    · rintro ⟨rfl, h⟩
      exact Act.run_bind_failed (World.pattern?_eq_failed_iff.mpr ⟨rfl, h.pattern⟩)
  · obtain ⟨found, hfires⟩ := fires_of_not_asks hasks
    rw [hfires]
    constructor
    · intro h
      cases h
    · rintro ⟨-, h⟩
      exact absurd h.asks hasks

theorem fires_ne_hung (p : TriggerParams) (text : String) (world : World) :
    (fires p text world).1 ≠ .hung := by
  by_cases hasks : Asks p text
  · rw [fires_of_asks hasks]
    rcases hlook : World.pattern? p.literal world with ⟨found | cause | _, next⟩
    · rw [Act.run_bind_done hlook]
      exact nofun
    · rw [Act.run_bind_failed hlook]
      exact nofun
    · exact absurd (congrArg Prod.fst hlook) (World.pattern?_ne_hung _ _)
  · obtain ⟨found, hfires⟩ := fires_of_not_asks hasks
    rw [hfires]
    exact nofun

/-- The first of several triggers that fires: the first one is asked, and then perhaps the others. -/
theorem first_cons_trigger {n : Node} (hparams : n.params = .trigger p) (rest : List Node) :
    first text (n :: rest) = fires p text >>= fun fired =>
      fired.elim (first text rest) fun captures => pure (some (n, captures)) := by
  rw [first]
  simp only [hparams]
  congr 1
  funext fired
  cases fired <;> rfl

/-- Other nodes are passed over. -/
theorem first_cons_other {n : Node} (hparams : ∀ p, n.params ≠ .trigger p) (rest : List Node) :
    first text (n :: rest) = first text rest := by
  rw [first]
  cases h : n.params with
  | trigger p => exact absurd h (hparams p)
  | _ => rfl

/-- So are triggers that do not fire. -/
theorem first_append {before rest : List Node}
    (h : first text before world = (.done none, after)) :
    first text (before ++ rest) world = first text rest after := by
  induction before generalizing world with
  | nil =>
    obtain ⟨-, rfl⟩ := Prod.mk.inj h
    rfl
  | cons n before ih =>
    rw [List.cons_append]
    by_cases htrigger : ∃ p, n.params = .trigger p
    · obtain ⟨p, hparams⟩ := htrigger
      rw [first_cons_trigger hparams] at h ⊢
      obtain ⟨fired, next, hrun, hnext⟩ := Act.exists_of_bind_done h
      rw [Act.run_bind_done hrun]
      cases fired with
      | none => exact ih hnext
      | some captures => cases hnext
    · have hparams := not_exists.mp htrigger
      rw [first_cons_other hparams] at h ⊢
      exact ih h

/-- **Of several triggers the first that does not answer raises**, and the others before it have not
fired. -/
theorem first_eq_failed_iff {nodes : List Node} :
    first text nodes world = (.failed f, after) ↔ ∃ before n rest p, nodes = before ++ n :: rest ∧
      n.params = .trigger p ∧ first text before world = (.done none, after) ∧
      Raises p text after f := by
  constructor
  · intro h
    induction nodes generalizing world with
    | nil => cases h
    | cons n nodes ih =>
      -- a node that does not fire goes in front of those already passed over
      have hpassed {next : World}
          (hone : ∀ rest, first text (n :: rest) world = first text rest next)
          (h : first text nodes next = (.failed f, after)) :
          ∃ before n' rest p, n :: nodes = before ++ n' :: rest ∧ n'.params = .trigger p ∧
            first text before world = (.done none, after) ∧ Raises p text after f := by
        obtain ⟨before, n', rest, p, rfl, hparams, hbefore, hraises⟩ := ih h
        exact ⟨n :: before, n', rest, p, rfl, hparams, (hone before).trans hbefore, hraises⟩
      by_cases htrigger : ∃ p, n.params = .trigger p
      · obtain ⟨p, hparams⟩ := htrigger
        rw [first_cons_trigger hparams] at h
        rcases Act.cases_of_bind_failed h with hfires | ⟨captures | _, next, hfires, hnext⟩
        · obtain ⟨rfl, hraises⟩ := fires_eq_failed_iff.mp hfires
          exact ⟨[], n, nodes, p, rfl, hparams, rfl, hraises⟩
        · refine hpassed (fun rest => ?_) hnext
          rw [first_cons_trigger hparams, Act.run_bind_done hfires]
          rfl
        · cases hnext
      · have hone (rest : List Node) : first text (n :: rest) world = first text rest world := by
          rw [first_cons_other (not_exists.mp htrigger)]
        exact hpassed hone ((hone nodes).symm.trans h)
  · rintro ⟨before, n, rest, p, rfl, hparams, hbefore, hraises⟩
    rw [first_append hbefore, first_cons_trigger hparams]
    exact Act.run_bind_failed (fires_eq_failed_iff.mpr ⟨rfl, hraises⟩)

end Trigger

/-! ## Runs -/

namespace Oversized

/-- **A workflow that asks for more than there can be**: the count in its pattern is oversized. -/
def document : Value :=
  .object [("id", .text "oversized"),
    ("nodes", .list [
      .object [("id", .text "ask"), ("type", .text "trigger"),
        ("data", .object [("trigger_type", .text "regex"),
          ("trigger_content", .text "a\x7b99999999999\x7d")])]])]

/-- Its trigger. -/
def ask : Node :=
  ⟨"ask", "trigger", Node.origin, Node.origin,
    [("trigger_type", .text "regex"), ("trigger_content", .text "a\x7b99999999999\x7d")],
    .trigger ⟨"regex", "a\x7b99999999999\x7d", "", []⟩⟩

/-- The workflow as it is loaded. -/
def workflow : Workflow where
  id := "oversized"
  name := "untitled"
  triggerType := "exact"
  triggerContent := ""
  enabled := true
  stopPropagation := false
  nodes := [ask]
  connections := []
  index := ⟨[("ask", ask)], []⟩

end Oversized

namespace Entry

variable {e : Entry} {scene : Scene} {w : Workflow} {world after : World} {f : Fault}

/-- Once it is settled where a walk departs from, nothing is raised any more. -/
theorem run_ne_failed_of_departure {found : Option Departure}
    (h : e.departure scene w world = (.done found, after)) :
    (e.run scene w world).1 ≠ .failed f := by
  cases found with
  | none =>
    rw [run_eq, Act.run_bind_done h]
    exact nofun
  | some d =>
    obtain ⟨ending, last, hcourse, hrun⟩ := course_of_departure h
    rw [hrun]
    rcases ending with _ | cause | _
    · exact nofun
    · exact absurd rfl (hcourse.ne_failed cause)
    · exact nofun

/-- **A run raises what one of its triggers raises**, and nothing else. -/
theorem run_eq_failed_iff : e.run scene w world = (.failed f, after) ↔
    e = .message ∧ Trigger.first scene.occasion.text w.triggers world = (.failed f, after) := by
  constructor
  · intro h
    have hbind := h
    rw [run_eq] at hbind
    rcases Act.cases_of_bind_failed hbind with hdeparture | ⟨found, next, hdeparture, -⟩
    · cases e with
      | clock => cases hdeparture
      | message =>
        rcases Act.cases_of_bind_failed hdeparture with hfirst | ⟨found, next, -, hfound⟩
        · exact ⟨rfl, hfirst⟩
        · rcases found with _ | ⟨n, captures⟩ <;> cases hfound
    · exact absurd (congrArg Prod.fst h) (run_ne_failed_of_departure hdeparture)
  · rintro ⟨rfl, h⟩
    rw [run_eq]
    exact Act.run_bind_failed (Act.run_bind_failed h)

/-- **A workflow whose patterns strain no limit raises nothing.** -/
theorem run_ne_failed_of_unstrained (h : ∀ n ∈ w.triggers, ∀ p, n.params = .trigger p →
      p.triggerType = "regex" → ∀ f, ¬ Pattern.Strains p.literal.toList f) :
    (e.run scene w world).1 ≠ .failed f := by
  intro hfailed
  have hrun : e.run scene w world = (.failed f, (e.run scene w world).2) := by rw [← hfailed]
  obtain ⟨-, hfirst⟩ := run_eq_failed_iff.mp hrun
  obtain ⟨before, n, rest, p, hnodes, hparams, -, hraises⟩ := Trigger.first_eq_failed_iff.mp hfirst
  have hmem : n ∈ w.triggers := by simp [hnodes]
  exact h n hmem p hparams hraises.asks.regex f hraises.pattern.strained

/-- **What is raised on the way of a message through a workflow.** A look-up answers, unless the
text is not kept and breaks a limit that it strains; then it raises this fault. A trigger answers,
unless it looks up its pattern and this raises. A run raises exactly what the first trigger raises
that does not answer, those before it not having fired; after that nothing is raised, and by the
clock nothing at all. -/
theorem raises_iff (cache : Pattern.Cache) (p : TriggerParams) (text : String) (e : Entry)
    (scene : Scene) (w : Workflow) (world after : World) (f : Fault) :
    (cache.get text = .error f ↔ cache.Raises text f) ∧
    ((Trigger.fires p text world).1 ≠ .hung ∧
      (Trigger.fires p text world = (.failed f, after) ↔
        after = world ∧ Trigger.Raises p text world f)) ∧
    (e.run scene w world = (.failed f, after) ↔ e = .message ∧
      ∃ before n rest p, w.triggers = before ++ n :: rest ∧ n.params = .trigger p ∧
        Trigger.first scene.occasion.text before world = (.done none, after) ∧
        Trigger.Raises p scene.occasion.text after f) := by
  refine ⟨Pattern.Cache.get_eq_error_iff, ⟨Trigger.fires_ne_hung p text world, ?_⟩, ?_⟩
  · exact Trigger.fires_eq_failed_iff
  · rw [run_eq_failed_iff, Trigger.first_eq_failed_iff]

/-- **A run may raise**: the pattern of its trigger has an oversized count. -/
theorem run_raised : ¬ ∀ (document : Value) (w : Workflow) (scene : Scene) (world : World)
    (f : Fault), Workflow.load document = .ok w → (message.run scene w world).1 ≠ .failed f := by
  intro h
  exact h Oversized.document Oversized.workflow (Loop.scene Loop.willing ⟨64, 5⟩) Loop.world
    .patternRange rfl rfl

end Entry

end ChatFlow
