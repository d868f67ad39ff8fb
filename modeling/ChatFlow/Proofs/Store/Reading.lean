import ChatFlow.Proofs.Store.Standing
import ChatFlow.Proofs.Template.Single

/-!
# Reading back what was stored

Text that a node stores is retyped on the way: it is rendered, read as a literal, held, and written out
again where a template names it.

* `Turn.Sets.of_plain` — a node whose key and value have no braces stores them as they are;
* `Tally.reads_back` — **what was stored is read back** by every later template that names it, and by
  every template that names a variable it was read into;
* `Tally.reads_back_not` — this takes a world in which names can be filled in, and a variable with a
  name of its own.
-/

namespace ChatFlow

open Template (Braceless Fillable Own placeholder)

/-- What comes back of text without braces has none. -/
theorem Value.ComesBack.braceless {s t : String} (h : Value.ComesBack s t)
    (hs : Braceless s.toList) : Braceless t.toList := by
  cases h with
  | integer x h hlimit => exact Template.braceless_intText x.value
  | verbatim hinteger hdecimal => exact hs

/-- **A node whose key and value have no braces** stores them as they are. -/
theorem Turn.Sets.of_plain {t : Turn} {c : Tally} {p : StorageParams}
    (hnode : t.node.params = .storage c.scope p) (hset : p.storageType = "set")
    (huser : c.scope = .user → t.scene.occasion.event.userId = c.user) (hkey : p.key = c.key)
    (hplain : Braceless p.key.toList ∧ Braceless p.value.toList) (s : Stage) :
    t.Sets c p p.value s where
  node := hnode
  operation := hset
  user := huser
  rendered := by
    have hcontains {template : String} (h : Braceless template.toList) :
        template.toList.contains '\x7b' = false := by
      simpa using h.1
    refine ⟨s.seen t.walk, s.seen t.walk, ?_, Template.render_plain (hcontains hplain.2) _ _⟩
    rw [Template.render_plain (hcontains hplain.1), hkey]

namespace Tally

variable {c : Tally}

/-- What is held under the key of a user is the value of the user. -/
theorem userValue_of_held {store : Store} {v : Value} (hscope : c.scope = .user)
    (hheld : c.held store = some v) (hv : v ≠ .null) (default : Value) :
    store.userValue c.user c.key default = v := by
  rw [held, hscope] at hheld
  dsimp only at hheld
  rw [Store.userValue, hheld, Store.orDefault_some hv]

/-- **What a workflow stores it reads back.** After a node has set a text without braces that spells no
decimal, and as long as nothing has written under its key, each template `storage.` and the key comes
to the text, and so does each template that names a variable it was read into: to the text as it was,
or, if it spells an integer, to the decimal text of that. -/
theorem reads_back {t : Turn} {p : StorageParams} {shown : String} {before s : Stage}
    (hset : t.Sets c p p.value before) (hvalue : Braceless p.value.toList)
    (hback : Value.ComesBack p.value shown) (hstill : c.Untouched (t.after before) s) :
    (∀ (walk : Nat) (o : Occasion), c.scope = .user → o.event.userId = c.user →
      Braceless c.key.toList → (s.contexts walk).get? ("storage." ++ c.key) = none →
      Fillable (s.seen walk) →
      Template.render o (placeholder ("storage." ++ c.key)) (s.seen walk) =
        (.done shown, s.seen walk)) ∧
    ∀ (g : Turn) (q : StorageParams) (s' : Stage) (o : Occasion), g.Gets c q s →
      Stage.Carried g.walk (Storage.resultVar c.scope q) (g.after s) s' →
      Own (s'.seen g.walk) (Storage.resultVar c.scope q) → Fillable (s'.seen g.walk) →
      Template.render o (placeholder (Storage.resultVar c.scope q)) (s'.seen g.walk) =
        (.done shown, s'.seen g.walk) := by
  obtain ⟨v, hv, hnull, htext⟩ := hback.exists_ofLiteral
  have hheld : c.held s.world.store = some v := hstill.held_eq.trans (hset.held_after hv)
  constructor
  · intro walk o hscope huser hkey hfree hfillable
    refine hfillable.render_stored c.named hkey hfree ?_
    have hstored : s.world.store.userValue o.event.userId c.key (.text "") = v :=
      huser ▸ userValue_of_held hscope hheld hnull _
    rw [← htext, ← hstored]
    rfl
  · intro g q s' o hgets hcarried hown hfillable
    have hvariable : (s'.contexts g.walk).get? (Storage.resultVar c.scope q) = some v :=
      hcarried.get?_eq.trans (hgets.result hheld hnull)
    exact hfillable.render_variable hown hvariable htext (hback.braceless hvalue)

end Tally

/-! ## A notebook -/

namespace Notebook

/-- A best score, of a user or of all. -/
def tally (scope : StorageScope) : Tally := ⟨scope, "10001", "best", by decide⟩

/-- What a node does under a key, and where it leaves the result. -/
def params (way key value result : String) : StorageParams := ⟨way, key, value, result, .null, []⟩

/-- A turn of a walk that does it. -/
def turn (walk : Nat) (scope : StorageScope) (p : StorageParams) : Turn where
  walk
  scene := Loop.scene Loop.willing ⟨64, 5⟩
  node := ⟨"note", "storage", Node.origin, Node.origin, [], .storage scope p⟩

/-- Walks with variables, before anything was stored. -/
def stage (context : Table Value) : Stage where
  world := Loop.world
  contexts _ := context

theorem sets_turn (scope : StorageScope) {value : String} (hvalue : Braceless value.toList)
    (s : Stage) : (turn 0 scope (params "set" "best" value "")).Sets (tally scope)
      (params "set" "best" value "") value s :=
  have hkey : Braceless "best".toList := by decide
  .of_plain rfl rfl (fun _ => rfl) rfl ⟨hkey, hvalue⟩ s

theorem gets_turn (walk : Nat) (scope : StorageScope) (result : String) (s : Stage) :
    (turn walk scope (params "get" "best" "" result)).Gets (tally scope)
      (params "get" "best" "" result) s where
  node := rfl
  operation := rfl
  user _ := rfl
  rendered := by
    have hkey : "best".toList.contains '\x7b' = false := by decide
    have hvalue : "".toList.contains '\x7b' = false := by decide
    exact ⟨_, _, _, Template.render_plain hkey _ _, Template.render_plain hvalue _ _⟩

/-- A turn that stores under another key. -/
theorem writes_rival (scope : StorageScope) {c : Tally} (hc : "rival" ≠ c.key) (s : Stage) :
    ¬ (turn 0 scope (params "set" "rival" "9" "")).Writes c s := by
  rintro ⟨other, p, key, operation, hp, hkey, ⟨-, -, hsame⟩, -⟩
  obtain ⟨-, rfl⟩ := Params.storage.inj hp
  have hrival : "rival".toList.contains '\x7b' = false := by decide
  obtain rfl : "rival" = key :=
    Outcome.done.inj ((congrArg Prod.fst (Template.render_plain hrival _ _)).symm.trans hkey)
  exact hc hsame

/-- Seven below zero, with zeros in front. -/
def minusSeven : Numeral.IntegerText :=
  ⟨true, ['0', '0', '7'], by decide, List.all_eq_true.mp (by decide)⟩

theorem comesBack_minusSeven : Value.ComesBack "-007" "-7" :=
  .integer minusSeven (by decide) (by decide)

theorem fillable (context : Table Value) (h : ∀ e ∈ context, ∃ s, e.2.toText = .ok s)
    (hcaptures : context.get? "regex_groups" = none) {w : World} (hcontext : w.context = context)
    (hnow : w.now = Loop.world.now) (hzone : w.zone = .universal) : Fillable w where
  clock := hnow ▸ by decide
  placed := by
    rw [World.seconds?, hnow, hzone]
    decide
  captures := ⟨[], by rw [hcontext, Template.captures, hcaptures]⟩
  context e he _ := h e (hcontext ▸ he)

/-- A best score was noted. -/
def noted (scope : StorageScope) : Stage :=
  (turn 0 scope (params "set" "best" "-007" "")).after (stage [])

/-- Then that of a rival. -/
def last (scope : StorageScope) : Stage :=
  (turn 0 scope (params "set" "rival" "9" "")).after (noted scope)

/-- And another walk read the first. -/
def read : Stage := (turn 1 .everyone (params "get" "best" "" "shown")).after (last .everyone)

theorem untouched_last (scope : StorageScope) : (tally scope).Untouched (noted scope) (last scope) :=
  have hrival : "rival" ≠ "best" := by decide
  .turn .start (writes_rival scope hrival (noted scope))

theorem fillable_last : Fillable ((last .user).seen 1) :=
  fillable [] nofun rfl rfl rfl rfl

theorem fillable_read : Fillable (read.seen 1) :=
  fillable [("shown", .int (-7))]
    (List.forall_mem_singleton.mpr ⟨"-7", by decide +kernel⟩) rfl rfl rfl rfl

theorem own_shown : Own (read.seen 1) "shown" := by
  refine .of_braceless (by decide) (by decide) (by decide) (by decide) fun captured h => ?_
  obtain rfl : captured = [] := (Except.ok.inj h).symm
  exact nofun

end Notebook

open Notebook in
/-- The best score of a user, noted as `-007`, comes back as `-7`, and so does that of all by way of a
variable, after the score of a rival was noted. -/
theorem Tally.reads_back_notebook :
    let p := params "set" "best" "-007" ""
    let q := params "get" "best" "" "shown"
    let o := (Loop.scene Loop.willing ⟨64, 5⟩).occasion
    (∀ scope, (turn 0 scope p).Sets (tally scope) p p.value (stage []) ∧
      (tally scope).Untouched ((turn 0 scope p).after (stage [])) (last scope)) ∧
    Braceless p.value.toList ∧ Value.ComesBack p.value "-7" ∧
    (Braceless "best".toList ∧ ((last .user).contexts 1).get? "storage.best" = none ∧
      Fillable ((last .user).seen 1) ∧
      Template.render o (placeholder "storage.best") ((last .user).seen 1) =
        (.done "-7", (last .user).seen 1)) ∧
    (turn 1 .everyone q).Gets (tally .everyone) q (last .everyone) ∧
      Stage.Carried 1 "shown" ((turn 1 .everyone q).after (last .everyone)) read ∧
      Own (read.seen 1) "shown" ∧ Fillable (read.seen 1) ∧
      Template.render o (placeholder "shown") (read.seen 1) = (.done "-7", read.seen 1) := by
  intro p q o
  have hplain : Braceless p.value.toList := by decide
  have hkey : Braceless "best".toList := by decide
  have hsets (scope : StorageScope) := sets_turn scope hplain (stage [])
  have hgets := gets_turn 1 .everyone "shown" (last .everyone)
  have huser := (reads_back (hsets .user) hplain comesBack_minusSeven (untouched_last .user)).1
  have hall := (reads_back (hsets .everyone) hplain comesBack_minusSeven (untouched_last .everyone)).2
  have hname : "storage." ++ (tally .user).key = "storage.best" := by decide
  have hfree : ((last .user).contexts 1).get? "storage.best" = none := rfl
  have hread := huser 1 o rfl rfl hkey rfl fillable_last
  rw [hname] at hread
  have hshown := hall _ q read o hgets .start own_shown fillable_read
  exact ⟨fun scope => ⟨hsets scope, untouched_last scope⟩, hplain, comesBack_minusSeven,
    ⟨hkey, hfree, fillable_last, hread⟩, hgets, .start, own_shown, fillable_read, hshown⟩

open Notebook in
/-- **What was stored is not read back everywhere.** Beside a variable with more digits than can be
written, beside captures that are no list, and on the first day of year one, no name is filled in; a
variable with the name of a capture shows the capture; and within the braces of a name with braces
another variable is filled in. -/
theorem Tally.reads_back_not :
    let p := params "set" "best" "7" ""
    let o := (Loop.scene Loop.willing ⟨64, 5⟩).occasion
    let noted (context : Table Value) := ((turn 0 .user p).after (stage context)).seen 1
    let seen (result : String) (context : Table Value) :=
      ((turn 1 .everyone (params "get" "best" "" result)).after
        ((turn 0 .everyone p).after (stage context))).seen 1
    Value.ComesBack p.value "7" ∧
      (∀ scope s, (turn 0 scope p).Sets (tally scope) p p.value s) ∧
      (∀ name ∈ ["$1", "\x7bn\x7d"], name ∉ Template.knownNames ++ Template.reservedNames) ∧
      (∀ w ∈ [noted [("hoard", .int Kitty.hoard)], noted [("regex_groups", .int 5)],
          { noted [] with now := ⟨1, 1, 1, 12, 0, 0, 0⟩ }],
        ∃ f, (Template.render o (placeholder "storage.best") w).1 = .failed f) ∧
      (Template.render o (placeholder "$1") (seen "$1" [("regex_groups", .list [.text "go"])])).1 =
        .done "go" ∧
      (Template.render o (placeholder "\x7bn\x7d") (seen "\x7bn\x7d" [("n", .int 1)])).1 =
        .done "\x7b1\x7d" := by
  intro p o noted seen
  have hseven : Value.ComesBack "7" "7" :=
    .integer (.ofInt 7) (by decide) (by decide)
  have hplain : Braceless "7".toList := by decide
  have hhoard : (Template.render o (placeholder "storage.best")
      (noted [("hoard", .int Kitty.hoard)])).1 = .failed .digitLimit := by decide +kernel
  have hgroups : (Template.render o (placeholder "storage.best")
      (noted [("regex_groups", .int 5)])).1 =
        .failed (.wrongType "'int' object is not iterable") := by decide +kernel
  have hday : (Template.render o (placeholder "storage.best")
      { noted [] with now := ⟨1, 1, 1, 12, 0, 0, 0⟩ }).1 = .failed .conversion := by decide +kernel
  refine ⟨hseven, fun scope s => sets_turn scope hplain s, by decide, ?_, by decide +kernel,
    by decide +kernel⟩
  exact List.forall_mem_cons.mpr ⟨⟨_, hhoard⟩, List.forall_mem_cons.mpr ⟨⟨_, hgroups⟩,
    List.forall_mem_singleton.mpr ⟨_, hday⟩⟩⟩

end ChatFlow
