import ChatFlow.Proofs.Condition.Halves
import ChatFlow.Proofs.Store.Reading

/-!
# Cooldowns

A node stores the time, and a condition asks later how long ago that was. They meet through text only:
the time is rendered, read as a literal, held, and counted from.

* `Condition.verdict_hasCooled` — **the answer is exact** at whole seconds;
* `Turn.Sets.held_timestamp` — what is held after a node has stored the time;
* `Condition.cooldown_iff` — **a cooldown has passed exactly if so many seconds have**, since the time
  that was stored, or else since the start of 1970.
-/

namespace ChatFlow

open Template (Braceless placeholder)

/-- A reading of the clock at a whole second. -/
def Moment.IsWhole (m : Moment) : Prop := m.isValid = true ∧ m.micro = 0

namespace Condition

variable {p : ConditionParams} {o : Occasion} {w : World} {n : Int}

/-- **The answer is exact** at whole seconds. Where the clock has no timestamp there is none, which
counts as no. -/
theorem verdict_hasCooled {store : Store} {user value key : String} {zone : Zone} {now : Moment}
    {last : Int} (hvalue : halves ',' value = (key, some (intText n))) (hn : n.natAbs < 2 ^ 53)
    (hlast : (store.userValue user key (.int 0)).toNumber = .int last)
    (hsize : last.natAbs ≤ 2 ^ 50) (hnow : now.IsWhole) :
    verdict (hasCooled store user zone now value) =
      (zone.seconds? now).any fun seconds => n ≤ seconds - last := by
  unfold hasCooled
  simp only [hvalue, hlast, if_neg (intText_ne_empty n), number_intText hn]
  cases hseconds : zone.seconds? now with
  | some seconds =>
    have hfew := Moment.natAbs_le_of_seconds? hnow.1 hseconds
    have hspan : (seconds - last).natAbs < 2 ^ 53 := by omega
    obtain ⟨x, htimestamp, hx⟩ := Moment.timestamp_holds hnow.1 hseconds hnow.2
    obtain ⟨y, hsub, hy⟩ := Number.exists_sub hx (lt_of_le_of_lt hsize (by decide)) hspan
    simp only [htimestamp, bind, Except.bind, hsub]
    exact Number.atLeast_of_holds hy n
  | none =>
    have htimestamp : now.timestamp zone = .error .conversion := by
      simp only [Moment.timestamp, hseconds]
    simp only [htimestamp]
    rfl

/-- **Whether so many seconds have passed** since the time that is stored under the key. -/
theorem evaluate_cooldown {key : String} {last : Int} (hkind : p.conditionType = "cooldown")
    (hvalue : p.value = key ++ "," ++ intText n) (hclean : Braceless key.toList)
    (hkey : ',' ∉ key.toList) (htrim : trim key = key) (hn : n.natAbs < 2 ^ 53)
    (hlast : (w.store.userValue o.event.userId key (.int 0)).toNumber = .int last)
    (hsize : last.natAbs ≤ 2 ^ 50) (hnow : w.now.IsWhole) :
    (evaluate p o w).1 = .done (w.seconds?.any fun seconds => n ≤ seconds - last) := by
  have hchars : p.value.toList = key.toList ++ ',' :: (intText n).toList := by
    rw [hvalue, String.toList_append, String.toList_append, List.append_assoc]
    rfl
  have hplain : p.value.toList.contains '\x7b' = false := by
    have hbraceless : Braceless p.value.toList := by
      rw [hchars]
      exact hclean.append ((Template.braceless_intText n).cons (by decide))
    simpa using hbraceless.1
  have hrender : (Template.render o p.value w).1 = .done p.value :=
    congrArg Prod.fst (Template.render_plain hplain o w)
  have hanswer : (evaluate p o w).1 =
      .done (verdict (hasCooled w.store o.event.userId w.zone w.now p.value)) :=
    evaluate_of_answer (congrArg Kind.ofName? hkind) hrender fun dice => rfl
  have hhalves := halves_intText hchars hkey htrim (by decide)
  rw [hanswer, verdict_hasCooled hhalves hn hlast hsize hnow, World.seconds?]

end Condition

/-! ## The time in store -/

/-- **What is held after a node has stored the time.** The clock had a timestamp then. -/
theorem Turn.Sets.held_timestamp {t : Turn} {c : Tally} {q : StorageParams} {text : String}
    {s : Stage} (h : t.Sets c q text s) (htemplate : q.value = placeholder "timestamp")
    (hnow : s.world.now.IsWhole) :
    ∃ n, s.world.seconds? = some n ∧ n.natAbs ≤ 2 ^ 50 ∧
      c.held (t.after s).world.store = some (.int n) := by
  obtain ⟨u, v, hkey, hvalue⟩ := h.rendered
  obtain ⟨dice, hdice⟩ := Template.render_snd t.scene.occasion q.key (s.seen t.walk)
  rw [hkey] at hdice
  have hu : u.now = s.world.now := by
    have hsame := congrArg World.now hdice
    exact hsame
  have hseconds : u.seconds? = s.world.seconds? := by
    have hsame := congrArg World.seconds? hdice
    exact hsame
  rw [htemplate] at hvalue
  obtain ⟨n, hn, htext⟩ :=
    Template.exists_of_render_timestamp (hu ▸ hnow.1) (hu ▸ hnow.2) hvalue
  rw [hseconds] at hn
  have hsize : n.natAbs ≤ 2 ^ 50 := Moment.natAbs_le_of_seconds? hnow.1 hn
  refine ⟨n, hn, hsize, h.held_after ?_⟩
  rw [htext, Value.ofLiteral_intText (lt_of_le_of_lt hsize (by decide))]

namespace Condition

/-- **A cooldown has passed exactly if so many seconds have**: since the time that a node has stored
under the key, whatever else has happened in the meantime; and for a user who has nothing there, since
the start of 1970. Where the clock has no timestamp any more, it has not. -/
theorem cooldown_iff {c : Tally} {p : ConditionParams} {o : Occasion} {n : Nat}
    (hscope : c.scope = .user) (huser : o.event.userId = c.user)
    (hkind : p.conditionType = "cooldown") (hvalue : p.value = c.key ++ "," ++ intText n)
    (hclean : Braceless c.key.toList) (hkey : ',' ∉ c.key.toList) (htrim : trim c.key = c.key)
    (hn : n < 2 ^ 53) :
    (∀ (t : Turn) (q : StorageParams) (text : String) (before s : Stage) (walk : Nat),
      t.Sets c q text before → q.value = placeholder "timestamp" → c.Untouched (t.after before) s →
      before.world.now.IsWhole → s.world.now.IsWhole →
      ∃ last, before.world.seconds? = some last ∧
        (evaluate p o (s.seen walk)).1 =
          .done (s.world.seconds?.any fun seconds => (n : Int) ≤ seconds - last)) ∧
    ∀ w : World, c.held w.store = none → w.now.IsWhole →
      (evaluate p o w).1 = .done (w.seconds?.any fun seconds => (n : Int) ≤ seconds) := by
  have hn : (n : Int).natAbs < 2 ^ 53 := hn
  constructor
  · intro t q text before s walk hset htemplate hstill hbefore hnow
    obtain ⟨last, hlast, hsize, hheld⟩ := hset.held_timestamp htemplate hbefore
    have hstored : s.world.store.userValue o.event.userId c.key (.int 0) = .int last := by
      rw [huser]
      exact Tally.userValue_of_held hscope (hstill.held_eq.trans hheld) nofun _
    exact ⟨last, hlast, evaluate_cooldown (w := s.seen walk) hkind hvalue hclean hkey htrim hn
      (congrArg Value.toNumber hstored) hsize hnow⟩
  · intro w hheld hnow
    have hstored : w.store.userValue o.event.userId c.key (.int 0) = .int 0 := by
      rw [Tally.held, hscope] at hheld
      dsimp only at hheld
      rw [huser, Store.userValue, hheld]
      rfl
    have hsince := evaluate_cooldown (w := w) hkind hvalue hclean hkey htrim hn
      (congrArg Value.toNumber hstored) (by decide) hnow
    simpa only [Int.sub_zero] using hsince

end Condition

/-! ## A bonus -/

namespace Bonus

open Notebook (turn params stage)

/-- The time of the last bonus of a user. -/
def tally : Tally := ⟨.user, "10001", "bonus", by decide⟩

/-- What a node that hands out a bonus notes. -/
def note : StorageParams := params "set" "bonus" (placeholder "timestamp") ""

/-- The question whether the last one lies so many seconds back. -/
def question (n : Nat) : ConditionParams := ⟨"cooldown", "bonus" ++ "," ++ intText n, "", []⟩

/-- A bonus was handed out. -/
def taken : Stage := (turn 0 .user note).after (stage [])

/-- Another value was stored. -/
def busy : Stage := (turn 0 .user (params "set" "rival" "9" "")).after taken

/-- Time passes, on a clock that shows the universal time. -/
def wait (s : Stage) (now : Moment) : Stage :=
  { s with world := { s.world with now, zone := .universal } }

/-- Then a minute has passed. -/
def later : Stage := wait busy ⟨2024, 3, 15, 14, 31, 0, 0⟩

theorem sets_note : (turn 0 .user note).Sets tally note
    (intText (stage []).world.now.epochSeconds) (stage []) where
  node := rfl
  operation := rfl
  user _ := rfl
  rendered := by
    have hkey : "bonus".toList.contains '\x7b' = false := by decide
    have hfillable : Template.Fillable ((stage []).seen 0) :=
      Notebook.fillable [] nofun rfl rfl rfl rfl
    obtain ⟨known, captured, named, hknown, hcaptured, hnamed⟩ :=
      hfillable.exists_entries Condition.asker
    obtain ⟨n, hn, hrender⟩ :=
      Template.render_timestamp (by decide) rfl hknown hcaptured hnamed
    have hclock : ((stage []).seen 0).seconds? = some (stage []).world.now.epochSeconds := by decide
    obtain rfl := Option.some.inj (hclock.symm.trans hn)
    exact ⟨(stage []).seen 0, (stage []).seen 0, Template.render_plain hkey _ _, hrender⟩

theorem untouched_wait {first s : Stage} (h : tally.Untouched first s) (now : Moment) :
    tally.Untouched first (wait s now) := by
  have hother : ¬ tally.Is .everyone "" "" := fun h => nomatch h.1
  have hsame : Store.SameBut .everyone "" "" s.world.store (wait s now).world.store := .refl _
  exact .elsewhere h hother hsame

theorem untouched_later : tally.Untouched taken later := by
  have hrival : "rival" ≠ tally.key := by decide
  exact untouched_wait (.turn .start (Notebook.writes_rival .user hrival taken)) _

end Bonus

open Bonus in
/-- After a minute, a cooldown of sixty seconds has passed and one of sixty-one has not. For a user who
has had no bonus, both have. -/
theorem Condition.cooldown_iff_bonus :
    (tally.scope = .user ∧ asker.event.userId = tally.user ∧ Braceless tally.key.toList ∧
      ',' ∉ tally.key.toList ∧ trim tally.key = tally.key) ∧
    ((Notebook.turn 0 .user note).Sets tally note
        (intText (Notebook.stage []).world.now.epochSeconds) (Notebook.stage []) ∧
      note.value = placeholder "timestamp" ∧ tally.Untouched taken later ∧
      (Notebook.stage []).world.now.IsWhole ∧ later.world.now.IsWhole ∧
      (evaluate (question 60) asker (later.seen 1)).1 = .done true ∧
      (evaluate (question 61) asker (later.seen 1)).1 = .done false) ∧
    tally.held Loop.world.store = none ∧ Loop.world.now.IsWhole ∧
      (evaluate (question 61) asker Loop.world).1 = .done true := by
  have hclean : Braceless tally.key.toList := by decide
  have hkey : ',' ∉ tally.key.toList := by decide
  have htrim : trim tally.key = tally.key := by decide
  have hfirst : (Notebook.stage []).world.now.IsWhole := ⟨by decide, rfl⟩
  have hlast : later.world.now.IsWhole := ⟨by decide, rfl⟩
  have hnow : Loop.world.now.IsWhole := ⟨by decide, rfl⟩
  have hsixty := cooldown_iff (o := asker) (p := question 60) (c := tally) rfl rfl rfl rfl hclean
    hkey htrim (by decide)
  have hmore := cooldown_iff (o := asker) (p := question 61) (c := tally) rfl rfl rfl rfl hclean
    hkey htrim (by decide)
  obtain ⟨start, hstart, hpassed⟩ :=
    hsixty.1 _ _ _ _ _ 1 sets_note rfl untouched_later hfirst hlast
  obtain ⟨start', hstart', hrunning⟩ :=
    hmore.1 _ _ _ _ _ 1 sets_note rfl untouched_later hfirst hlast
  have hnever := hmore.2 Loop.world rfl hnow
  have hnoted : (Notebook.stage []).world.seconds? = some 1710513000 := by decide
  have hasked : later.world.seconds? = some 1710513060 := by decide
  have hclock : Loop.world.seconds? = some 1710513000 := by decide
  obtain rfl := Option.some.inj (hnoted.symm.trans hstart)
  obtain rfl := Option.some.inj (hnoted.symm.trans hstart')
  rw [hasked] at hpassed hrunning
  rw [hclock] at hnever
  exact ⟨⟨rfl, rfl, hclean, hkey, htrim⟩, ⟨sets_note, rfl, untouched_later, hfirst, hlast, hpassed,
    hrunning⟩, rfl, hnow, hnever⟩

end ChatFlow
