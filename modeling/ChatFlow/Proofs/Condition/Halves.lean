import ChatFlow.Engine.Condition
import ChatFlow.Proofs.Number.Figures
import ChatFlow.Proofs.Number.Literals
import ChatFlow.Proofs.Template.Passes
import ChatFlow.Proofs.Walk.Entry

/-!
# Conditions on values of two halves

The value of a condition is rendered, cut at its sign, and one half is looked up.

* `Condition.halves_eq` — **the halves of a value**: what stands before the first sign, and what stands
  between the first and the second; `Condition.halves_intText` — where that is an integer;
* `Condition.evaluate_of_answer` — **a condition holds if its question is answered with yes**; one that
  cannot be answered does not;
* `Condition.equals_iff` — a stored value is compared with the text up to the next sign, and so **with
  the whole text where it has no sign**; `Condition.equals_not` — but not elsewhere.
-/

namespace ChatFlow

/-! ## The first piece -/

/-- The first piece is what stands before the first separator, or everything where there is none. -/
theorem exists_splitOn (sep : Char) (s : List Char) :
    ∃ more, s.splitOn sep = s.takeWhile (· ≠ sep) :: more := by
  by_cases h : sep ∈ s
  · obtain ⟨before, after, rfl, hbefore⟩ := List.eq_append_cons_of_mem h
    exact ⟨_, by rw [List.splitOn_append_cons_self_of_not_mem hbefore, takeWhile_closed hbefore]⟩
  · refine ⟨[], ?_⟩
    rw [List.splitOn_eq_singleton h, List.takeWhile_eq_self_iff.mpr]
    exact fun c hc => decide_eq_true fun heq => h (heq ▸ hc)

namespace Condition

/-! ## Halves -/

/-- **The halves of a value**: what stands before the first sign, and what stands between the first and
the second. -/
theorem halves_eq {sign : Char} {value : String} {key rest : List Char}
    (h : value.toList = key ++ sign :: rest) (hkey : sign ∉ key) :
    halves sign value =
      (halves.text key, some (halves.text (rest.takeWhile (· ≠ sign)))) := by
  obtain ⟨more, hmore⟩ := exists_splitOn sign rest
  rw [halves, h, splitOn_singleton, List.splitOn_append_cons_self_of_not_mem hkey, hmore]

/-- Without a second sign, the second half goes to the end. -/
theorem halves_of_notMem {sign : Char} {value : String} {key rest : List Char}
    (h : value.toList = key ++ sign :: rest) (hkey : sign ∉ key) (hrest : sign ∉ rest) :
    halves sign value = (halves.text key, some (halves.text rest)) := by
  rw [halves_eq h hkey, List.takeWhile_eq_self_iff.mpr]
  exact fun c hc => decide_eq_true fun heq => hrest (heq ▸ hc)

/-- The half behind a sign is an integer, if there is nothing else. -/
theorem halves_intText {sign : Char} {value key : String} {n : Int}
    (h : value.toList = key.toList ++ sign :: (intText n).toList) (hkey : sign ∉ key.toList)
    (htrim : trim key = key) (hsign : isFigure sign = false) :
    halves sign value = (key, some (intText n)) := by
  have hnumber : sign ∉ (intText n).toList := fun hm =>
    Bool.eq_false_iff.mp hsign (isFigure_intText n sign hm)
  have hkeyText : halves.text key.toList = key := htrim
  rw [halves_of_notMem h hkey hnumber, hkeyText, halves.text,
    trimChars_of_nonblank (Number.isBlank_intText n), String.ofList_toList]

theorem number_intText {n : Int} (h : n.natAbs < 2 ^ 53) : number (intText n) = .int n :=
  Number.ofText_intText h

/-! ## Questions and answers -/

/-- The verdict on an answer; none is no. -/
def verdict : Except Fault Bool → Bool
  | .ok b => b
  | .error _ => false

/-- **A condition holds if its question is answered with yes.** The value is rendered first, which
changes chance only. -/
theorem evaluate_of_answer {kind : Kind} {p : ConditionParams} {o : Occasion} {w : World}
    {value : String} {r : Except Fault Bool} (hkind : Kind.ofName? p.conditionType = some kind)
    (hrender : (Template.render o p.value w).1 = .done value)
    (hanswer : ∀ dice, answer kind p.varName o value { w with dice } =
      Act.of r { w with dice }) :
    (evaluate p o w).1 = .done (verdict r) := by
  obtain ⟨dice, hdice⟩ := Template.render_snd o p.value w
  have hrun : Template.render o p.value w = (.done value, { w with dice }) :=
    Prod.ext hrender hdice
  have hresult : (Template.render o p.value >>= fun value => answer kind p.varName o value) w =
      Act.of r { w with dice } := (Act.run_bind_done hrun).trans (hanswer dice)
  unfold evaluate
  rw [hkind]
  dsimp only
  rw [Act.run_bind, Act.attempt, hresult]
  cases r <;> rfl

end Condition

/-! ## Stored values -/

/-- A stored value of a scope, or what stands for a missing one. -/
def Store.lookup (s : Store) (scope : StorageScope) (user key : String) (default : Value) : Value :=
  match scope with
  | .user => s.userValue user key default
  | .everyone => s.globalValue key default

namespace Condition

/-- The name of the question whether a stored value of a scope has a text. -/
def equalsName : StorageScope → String
  | .user => "data_equals"
  | .everyone => "global_equals"

theorem hasText_of_toText {lookup : String → Value} {key expected value text : String}
    (h : halves '=' value = (key, some expected)) (htext : (lookup key).toText = .ok text) :
    hasText lookup value = .ok (decide (text = expected)) := by
  rw [hasText, h]
  dsimp only
  rw [htext]
  rfl

theorem verdict_hasText {lookup : String → Value} {key expected value : String}
    (h : halves '=' value = (key, some expected)) :
    verdict (hasText lookup value) = true ↔ (lookup key).toText = .ok expected := by
  rcases htext : (lookup key).toText with f | text
  · rw [hasText, h]
    dsimp only
    rw [htext]
    exact ⟨nofun, nofun⟩
  · rw [hasText_of_toText h htext, verdict, decide_eq_true_eq, Except.ok.injEq]

variable {scope : StorageScope} {p : ConditionParams} {o : Occasion} {w : World}

theorem evaluate_equals {value : String} (hkind : p.conditionType = equalsName scope)
    (hrender : (Template.render o p.value w).1 = .done value) :
    (evaluate p o w).1 =
      .done (verdict (hasText (w.store.lookup scope o.event.userId · (.text "")) value)) := by
  cases scope with
  | user => exact evaluate_of_answer (congrArg Kind.ofName? hkind) hrender fun dice => rfl
  | everyone => exact evaluate_of_answer (congrArg Kind.ofName? hkind) hrender fun dice => rfl

/-- **A stored value is compared with a text up to the next sign**, and so with the whole text where it
has no sign. The key is what stands before the first sign. -/
theorem equals_iff {key expected : String} (hkind : p.conditionType = equalsName scope)
    (hkey : '=' ∉ key.toList) (htrim : trim key = key)
    (hrender : (Template.render o p.value w).1 = .done (key ++ "=" ++ expected)) :
    ((evaluate p o w).1 = .done true ↔
      (w.store.lookup scope o.event.userId key (.text "")).toText =
        .ok (trim (String.ofList (expected.toList.takeWhile (· ≠ '='))))) ∧
    ('=' ∉ expected.toList → trim expected = expected →
      ((evaluate p o w).1 = .done true ↔
        (w.store.lookup scope o.event.userId key (.text "")).toText = .ok expected)) := by
  have htext (s : List Char) : halves.text s = trim (String.ofList s) := by
    rw [halves.text, trim, String.toList_ofList]
  have hvalue : (key ++ "=" ++ expected).toList = key.toList ++ '=' :: expected.toList := by
    rw [String.toList_append, String.toList_append, List.append_assoc]
    rfl
  have hfirst : halves.text key.toList = key := by rw [htext, String.ofList_toList, htrim]
  have hholds {text : String} (h : halves '=' (key ++ "=" ++ expected) = (key, some text)) :
      (evaluate p o w).1 = .done true ↔
        (w.store.lookup scope o.event.userId key (.text "")).toText = .ok text := by
    rw [evaluate_equals hkind hrender, Outcome.done.injEq]
    exact verdict_hasText h
  constructor
  · refine hholds ?_
    rw [halves_eq hvalue hkey, hfirst, htext]
  · intro hexpected hwhole
    refine hholds ?_
    rw [halves_of_notMem hvalue hkey hexpected, hfirst, htext, String.ofList_toList, hwhole]

/-! ## A pass -/

/-- Somebody asks. -/
def asker : Occasion := (Loop.scene Loop.willing ⟨64, 5⟩).occasion

namespace Pass

/-- A user has a pass, whose text may have a sign. -/
def world (pass : String) : World :=
  { Loop.world with store := ⟨[("10001", [("pass", .text pass)])], []⟩ }

/-- The question whether it is the one. -/
def question (value : String) : ConditionParams := ⟨"data_equals", value, "", []⟩

end Pass

open Pass in
/-- A pass without a sign is recognized. -/
theorem equals_iff_pass :
    (question "pass=ab").conditionType = equalsName .user ∧ '=' ∉ "pass".toList ∧
      trim "pass" = "pass" ∧
      (Template.render asker (question "pass=ab").value (world "ab")).1 =
        .done ("pass" ++ "=" ++ "ab") ∧
      '=' ∉ "ab".toList ∧ trim "ab" = "ab" ∧
      (evaluate (question "pass=ab") asker (world "ab")).1 = .done true := by
  have hvalue : (Template.render asker (question "pass=ab").value (world "ab")).1 =
      .done ("pass" ++ "=" ++ "ab") := by decide
  have hkey : '=' ∉ "pass".toList := by decide
  have hexpected : '=' ∉ "ab".toList := by decide
  have htrim : trim "pass" = "pass" := by decide
  have hwhole : trim "ab" = "ab" := by decide
  have hkind : (question "pass=ab").conditionType = equalsName .user := rfl
  have hiff := (equals_iff hkind hkey htrim hvalue).2 hexpected hwhole
  exact ⟨hkind, hkey, htrim, hvalue, hexpected, hwhole, hiff.mpr rfl⟩

open Pass in
/-- **A pass with a sign is not**: what follows its own sign is not looked at. -/
theorem equals_not :
    '=' ∉ "pass".toList ∧ trim "pass" = "pass" ∧ Template.Braceless "a=b".toList ∧
      trim "a=b" = "a=b" ∧
      ((world "a=b").store.userValue "10001" "pass" (.text "")).toText = .ok "a=b" ∧
      (evaluate (question "pass=a=b") asker (world "a=b")).1 = .done false :=
  ⟨by decide, by decide, by decide, by decide, rfl, by decide +kernel⟩

end Condition

end ChatFlow
