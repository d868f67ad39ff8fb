import ChatFlow.Proofs.Condition.Halves
import ChatFlow.Proofs.Expr.Comparing

/-!
# Comparing integers three ways

A variable is compared by its own kind of question, a stored value by another that cuts its value at a
sign, and either kind could be replaced by an expression. They agree on integers of 53 bits, zero and
negative ones included.

* `Condition.variableName`, `Condition.storedName`, `Condition.sign` — the three comparisons in each way;
* `Condition.evaluate_variable`, `Condition.evaluate_stored` — the questions;
* `Condition.Tellable`, `Condition.evaluate_expression` — a world that expressions can see, and an
  expression in it;
* `Condition.comparisons_agree` — **all three compare as the integers do**, so exactly one of the three
  comparisons holds; `Condition.comparisons_agree_not` — what this takes.
-/

namespace ChatFlow.Condition

open Template (Braceless)

/-! ## The three comparisons -/

/-- The question that compares a variable. -/
def variableName : Ordering → String
  | .lt => "var_lt"
  | .eq => "var_equals"
  | .gt => "var_gt"

/-- The question that compares a stored value of the user. -/
def storedName : Ordering → String
  | .lt => "data_lt"
  | .eq => "data_equals"
  | .gt => "data_gt"

/-- The sign at which the value of that question is cut. -/
def sign : Ordering → Char
  | .lt => '<'
  | .eq => '='
  | .gt => '>'

variable {p : ConditionParams} {o : Occasion} {w : World} {n m : Int}

theorem decide_intText (n m : Int) : decide (intText n = intText m) = (compare n m == .eq) := by
  rw [Bool.eq_iff_iff, decide_eq_true_eq, beq_iff_eq, compare_eq_iff_eq]
  exact ⟨fun h => intText_injective h, congrArg intText⟩

/-! ## Variables and stored values -/

theorem render_intText {value : String} (h : value = intText m) (o : Occasion) (w : World) :
    (Template.render o value w).1 = .done (intText m) := by
  have hplain : (intText m).toList.contains '\x7b' = false := by
    simpa using (Template.braceless_intText m).1
  rw [h, Template.render_plain hplain]

/-- A variable that is an integer is taken for it, zero being neither true nor anything else. -/
theorem variableNumber_int {context : Table Value} {name : String}
    (hget : context.get? name = some (.int n)) (hn : n.natAbs < 2 ^ 53) :
    variableNumber context name = .ok (.int n) := by
  unfold variableNumber
  rw [hget]
  change (do if ← (Number.int n).truthy then return (Value.int n).toNumber else return .int 0) = _
  by_cases hzero : n = 0
  · subst hzero
    rfl
  · rw [Number.truthy_int hzero hn]
    rfl

/-- A question that holds a number of a variable against another. -/
theorem evaluate_against {kind : Kind} {holds : Number → Number → Bool}
    (hkind : Kind.ofName? p.conditionType = some kind) (hvalue : p.value = intText m)
    (hanswer : ∀ u, answer kind p.varName o (intText m) u =
      (Act.of (variableNumber u.context p.varName) >>= fun x =>
        pure (holds x (number (intText m)))) u)
    (hget : w.context.get? p.varName = some (.int n)) (hn : n.natAbs < 2 ^ 53)
    (hm : m.natAbs < 2 ^ 53) : (evaluate p o w).1 = .done (holds (.int n) (.int m)) := by
  have hresult (dice : Dice) : answer kind p.varName o (intText m) { w with dice } =
      Act.of (.ok (holds (.int n) (number (intText m)))) { w with dice } :=
    (hanswer _).trans (Act.run_bind_done (Act.run_of_ok (variableNumber_int hget hn) _))
  rw [evaluate_of_answer hkind (render_intText hvalue o w) hresult, number_intText hm]
  rfl

/-- **A variable that is an integer** compares as it does. -/
theorem evaluate_variable (r : Ordering) (hget : w.context.get? p.varName = some (.int n))
    (hn : n.natAbs < 2 ^ 53) (hm : m.natAbs < 2 ^ 53) (hkind : p.conditionType = variableName r)
    (hvalue : p.value = intText m) : (evaluate p o w).1 = .done (compare n m == r) := by
  have hname := congrArg Kind.ofName? hkind
  cases r with
  | lt =>
    have hless : (evaluate p o w).1 = .done (Number.less (.int n) (.int m)) :=
      evaluate_against hname hvalue (fun _ => rfl) hget hn hm
    exact hless
  | eq =>
    have htext : (w.valueOf p.varName).toText = .ok (intText n) := by
      rw [World.valueOf, hget]
      exact Value.toText_int hn
    have hanswer (dice : Dice) : answer .varEquals p.varName o (intText m) { w with dice } =
        Act.of (.ok (decide (intText n = intText m))) { w with dice } :=
      Act.run_bind_done (Act.run_of_ok htext _)
    rw [evaluate_of_answer hname (render_intText hvalue o w) hanswer, decide_intText]
    rfl
  | gt =>
    have hgreater : (evaluate p o w).1 = .done (Number.greater (.int n) (.int m)) :=
      evaluate_against hname hvalue (fun _ => rfl) hget hn hm
    exact hgreater

/-- A question that holds a stored value against a number, where both are integers. -/
theorem evaluate_compares {kind : Kind} {c : Char} {holds : Number → Number → Bool}
    {value key : String} (hkind : Kind.ofName? p.conditionType = some kind)
    (hrender : (Template.render o p.value w).1 = .done value)
    (hanswer : ∀ dice, answer kind p.varName o value { w with dice } =
      Act.of (.ok (compares c holds (w.store.userValue o.event.userId · (.int 0)) value))
        { w with dice })
    (hhalves : halves c value = (key, some (intText m)))
    (hstored : w.store.userValue o.event.userId key (.int 0) = .int n) (hm : m.natAbs < 2 ^ 53) :
    (evaluate p o w).1 = .done (holds (.int n) (.int m)) := by
  rw [evaluate_of_answer hkind hrender hanswer, compares, hhalves]
  dsimp only
  rw [hstored, number_intText hm]
  rfl

/-- **A stored value that is an integer** compares as it does, where the value of the question is
rendered as the key, the sign and the other integer. -/
theorem evaluate_stored {key : String} (r : Ordering)
    (hget : (w.store.record o.event.userId).get? key = some (.int n))
    (hn : n.natAbs < 2 ^ 53) (hm : m.natAbs < 2 ^ 53) (hkind : p.conditionType = storedName r)
    (hkey : sign r ∉ key.toList) (htrim : trim key = key)
    (hrender : (Template.render o p.value w).1 =
      .done (key ++ String.singleton (sign r) ++ intText m)) :
    (evaluate p o w).1 = .done (compare n m == r) := by
  obtain ⟨value, hvalue⟩ : ∃ value, value = key ++ String.singleton (sign r) ++ intText m := ⟨_, rfl⟩
  rw [← hvalue] at hrender
  have hname := congrArg Kind.ofName? hkind
  have hstored (default : Value) : w.store.userValue o.event.userId key default = .int n := by
    rw [Store.userValue, hget]
    rfl
  have hhalves : halves (sign r) value = (key, some (intText m)) := by
    refine halves_intText ?_ hkey htrim (by cases r <;> decide)
    rw [hvalue, String.toList_append, String.toList_append, String.toList_singleton,
      List.append_assoc]
    rfl
  cases r with
  | lt =>
    have hless : (evaluate p o w).1 = .done (Number.less (.int n) (.int m)) :=
      evaluate_compares hname hrender (fun _ => rfl) hhalves (hstored _) hm
    exact hless
  | eq =>
    have htext : (w.store.lookup .user o.event.userId key (.text "")).toText = .ok (intText n) :=
      (congrArg Value.toText (hstored _)).trans (Value.toText_int hn)
    have hequals : p.conditionType = equalsName .user := hkind
    rw [evaluate_equals hequals hrender, hasText_of_toText hhalves htext, decide_intText]
    rfl
  | gt =>
    have hgreater : (evaluate p o w).1 = .done (Number.greater (.int n) (.int m)) :=
      evaluate_compares hname hrender (fun _ => rfl) hhalves (hstored _) hm
    exact hgreater

/-! ## Expressions -/

/-- **A world that expressions can see**: the clock has a timestamp, and every variable that they see is
plain or has a text. -/
structure Tellable (w : World) : Prop where
  /-- the clock shows a time of the calendar -/
  clock : w.now.isValid = true
  /-- and one that has a timestamp -/
  placed : w.seconds?.isSome
  /-- variables can be told -/
  context : ∀ e ∈ w.context, Template.reservedNames.contains e.1 = false →
    ∃ v, plainValue e.2 = .ok v

section

variable {names vars context : Table Value} {name : String}

theorem exists_withVariables (names : Table Value) (h : ∀ e ∈ context,
    Template.reservedNames.contains e.1 = false → ∃ v, plainValue e.2 = .ok v) :
    ∃ vars, withVariables names context = .ok vars := by
  induction context generalizing names with
  | nil => exact ⟨names, rfl⟩
  | cons e rest ih =>
    obtain ⟨key, v⟩ := e
    have hrest := fun names => ih names fun e he => h e (List.mem_cons_of_mem _ he)
    unfold withVariables
    cases hreserved : Template.reservedNames.contains key with
    | true => exact hrest names
    | false =>
      obtain ⟨v', hv⟩ := h (key, v) List.mem_cons_self hreserved
      obtain ⟨vars, hvars⟩ := hrest (names.insert key v')
      exact ⟨vars, by simp only [hv, Bool.false_eq_true, if_false]; exact hvars⟩

/-- Names that are not among the variables keep their meaning. -/
theorem get?_withVariables_of_notMem (h : withVariables names context = .ok vars)
    (hname : name ∉ context.keys) : vars.get? name = names.get? name := by
  induction context generalizing names with
  | nil => rw [Except.ok.inj h]
  | cons e rest ih =>
    obtain ⟨key, v⟩ := e
    obtain ⟨hkey, hrest⟩ := not_or.mp (mt List.mem_cons.mpr hname)
    unfold withVariables at h
    split at h
    · exact ih h hrest
    · obtain ⟨v', -, h⟩ := exists_of_bind_ok h
      rw [ih h hrest, Table.get?_insert_of_ne _ (Ne.symm hkey)]

/-- **A variable is seen as its plain value**, whatever else has its name. -/
theorem get?_withVariables {v v' : Value} (h : withVariables names context = .ok vars)
    (hnodup : context.keys.Nodup) (hreserved : Template.reservedNames.contains name = false)
    (hget : context.get? name = some v) (hv : plainValue v = .ok v') :
    vars.get? name = some v' := by
  induction context generalizing names with
  | nil => cases hget
  | cons e rest ih =>
    obtain ⟨key, value⟩ := e
    obtain ⟨hkey, hrest⟩ := List.nodup_cons.mp hnodup
    unfold withVariables at h
    rw [Table.get?] at hget
    by_cases hsame : key = name
    · subst hsame
      rw [if_pos rfl] at hget
      obtain rfl := Option.some.inj hget
      rw [hreserved, if_neg Bool.false_ne_true] at h
      obtain ⟨told, htold, h⟩ := exists_of_bind_ok h
      obtain rfl := Except.ok.inj (hv.symm.trans htold)
      rw [get?_withVariables_of_notMem h hkey, Table.get?_insert, if_pos rfl]
    · rw [if_neg hsame] at hget
      split at h
      · exact ih h hrest hget
      · obtain ⟨told, -, h⟩ := exists_of_bind_ok h
        exact ih h hrest hget

end

/-- **What an expression sees of a variable that is an integer** is the integer. -/
theorem Tellable.exists_variables (h : Tellable w) (o : Occasion) {name : String}
    (hnodup : w.context.keys.Nodup) (hreserved : Template.reservedNames.contains name = false)
    (hget : w.context.get? name = some (.int n)) :
    ∃ vars, expressionVariables o w.zone w.now w.context = .ok vars ∧
      vars.get? name = some (.int n) := by
  obtain ⟨x, seconds, htimestamp, hseconds⟩ := Moment.timestamp_toInteger h.clock h.placed
  obtain ⟨base, hbase⟩ : ∃ base, expressionBase o w.zone w.now = .ok base :=
    ⟨_, by simp only [expressionBase, htimestamp, hseconds, bind, Except.bind]; rfl⟩
  obtain ⟨vars, hvars⟩ := exists_withVariables base h.context
  refine ⟨vars, ?_, get?_withVariables hvars hnodup hreserved hget rfl⟩
  simp only [expressionVariables, hbase, bind, Except.bind, hvars]

theorem braceless_comparison (x : Expr.Name) (r : Ordering) (m : Int) :
    Braceless (Expr.comparison x (.ofOrdering r) m).toList := by
  have hchar : ∀ c, Expr.isNameChar c = true → c ≠ '\x7b' ∧ c ≠ '\x7d' := by
    intro c hc
    constructor <;> rintro rfl <;> revert hc <;> decide
  have hname : Braceless x.text.toList := by
    rw [Expr.Name.text, String.toList_ofList, Template.braceless_iff]
    refine List.forall_mem_cons.mpr ⟨hchar _ ?_, fun c hc => hchar c (x.goesOn c hc)⟩
    rw [Expr.isNameChar, x.begins, Bool.true_or, Bool.true_or]
  have hsymbol : Braceless (Expr.BinaryOp.ofOrdering r).symbol.toList := by cases r <;> decide
  have hspace : Braceless " ".toList := by decide
  simp only [Expr.comparison, String.toList_append]
  exact (((hname.append hspace).append hsymbol).append hspace).append (Template.braceless_intText m)

/-- **An expression that compares a variable** compares it as the integer that it is. -/
theorem evaluate_expression {x : Expr.Name} (r : Ordering) (h : Tellable w)
    (hnodup : w.context.keys.Nodup) (hreserved : Template.reservedNames.contains x.text = false)
    (hget : w.context.get? x.text = some (.int n)) (hm : m.natAbs < 2 ^ 53)
    (hkind : p.conditionType = "expression")
    (hvalue : p.value = Expr.comparison x (.ofOrdering r) m) :
    (evaluate p o w).1 = .done (compare n m == r) := by
  obtain ⟨vars, hvars, hx⟩ := h.exists_variables o hnodup hreserved hget
  have hplain : p.value.toList.contains '\x7b' = false := by
    rw [hvalue]
    simpa using (braceless_comparison x r m).1
  have hrender := congrArg Prod.fst (Template.render_plain hplain o w)
  have hanswer (dice : Dice) : answer .expression p.varName o p.value { w with dice } =
      Act.of (Expr.holds p.value vars) { w with dice } :=
    Act.run_bind_done (Act.run_of_ok hvars _)
  rw [evaluate_of_answer (congrArg Kind.ofName? hkind) hrender hanswer, hvalue,
    Expr.holds_comparison x r hx hm]
  rfl

/-! ## All three -/

/-- **Three ways to compare agree.** A variable that is an integer, a stored value that is one, and an
expression over the variable compare with another integer as the two do, each for the order that it
asks for. So one of the three questions of a way holds, and the others do not. -/
theorem comparisons_agree (hn : n.natAbs < 2 ^ 53) (hm : m.natAbs < 2 ^ 53) (r : Ordering)
    (o : Occasion) (w : World) :
    (∀ x : Expr.Name, w.context.get? x.text = some (.int n) →
      (∀ p : ConditionParams, p.conditionType = variableName r → p.varName = x.text →
        p.value = intText m → (evaluate p o w).1 = .done (compare n m == r)) ∧
      (Template.reservedNames.contains x.text = false → w.context.keys.Nodup → Tellable w →
        ∀ p : ConditionParams, p.conditionType = "expression" →
          p.value = Expr.comparison x (.ofOrdering r) m →
            (evaluate p o w).1 = .done (compare n m == r))) ∧
    ∀ (p : ConditionParams) (key : String),
      (w.store.record o.event.userId).get? key = some (.int n) → p.conditionType = storedName r →
      sign r ∉ key.toList → trim key = key →
      (Template.render o p.value w).1 = .done (key ++ String.singleton (sign r) ++ intText m) →
        (evaluate p o w).1 = .done (compare n m == r) := by
  refine ⟨fun x hget => ⟨fun p hkind hname hvalue => ?_, fun hreserved hnodup hworld p hkind hvalue =>
    ?_⟩, fun p key hget hkind hkey htrim hrender => ?_⟩
  · exact evaluate_variable r (hname ▸ hget) hn hm hkind hvalue
  · exact evaluate_expression r hworld hnodup hreserved hget hm hkind hvalue
  · exact evaluate_stored r hget hn hm hkind hkey htrim hrender

/-! ## Points -/

namespace Points

/-- The points of a walk. -/
def name : Expr.Name := ⟨'x', [], by decide, nofun, by decide⟩

/-- A world with variables and with values of a user. -/
def world (context record : Table Value) : World :=
  { Loop.world with context, store := ⟨[("10001", record)], []⟩ }

/-- A question. -/
def question (kind value name : String) : ConditionParams := ⟨kind, value, name, []⟩

/-- No points yet. -/
def start : World := world [("x", .int 0)] [("points", .int 0)]

theorem tellable_start : Tellable start where
  clock := by decide
  placed := by decide
  context := List.forall_mem_singleton.mpr fun _ => ⟨.int 0, rfl⟩

end Points

open Points in
/-- No points are more than one below zero, in all three ways. -/
theorem comparisons_agree_points :
    (0 : Int).natAbs < 2 ^ 53 ∧ (-1 : Int).natAbs < 2 ^ 53 ∧
      (start.context.get? name.text = some (.int 0) ∧
        (evaluate (question "var_gt" (intText (-1)) name.text) asker start).1 = .done true) ∧
      (Template.reservedNames.contains name.text = false ∧ start.context.keys.Nodup ∧
        Tellable start ∧
        (evaluate (question "expression" (Expr.comparison name .gt (-1)) "") asker start).1 =
          .done true) ∧
      (start.store.record asker.event.userId).get? "points" = some (.int 0) ∧
        '>' ∉ "points".toList ∧ trim "points" = "points" ∧
        (Template.render asker "points>-1" start).1 =
          .done ("points" ++ String.singleton '>' ++ intText (-1)) ∧
        (evaluate (question "data_gt" "points>-1" "") asker start).1 = .done true := by
  have hzero : (0 : Int).natAbs < 2 ^ 53 := by decide
  have hone : (-1 : Int).natAbs < 2 ^ 53 := by decide
  have hreserved : Template.reservedNames.contains name.text = false := by decide
  have hnodup : start.context.keys.Nodup := by decide
  have hkey : '>' ∉ "points".toList := by decide
  have htrim : trim "points" = "points" := by decide
  have hrender : (Template.render asker "points>-1" start).1 =
      .done ("points" ++ String.singleton '>' ++ intText (-1)) := by decide
  have hget : start.context.get? name.text = some (.int 0) := rfl
  have hstored : (start.store.record asker.event.userId).get? "points" = some (.int 0) := rfl
  obtain ⟨hvariables, hvalues⟩ := comparisons_agree hzero hone .gt asker start
  obtain ⟨hvariable, hexpression⟩ := hvariables name hget
  have hgreater : (compare (0 : Int) (-1) == .gt) = true := by decide
  rw [hgreater] at hvariable hexpression hvalues
  exact ⟨hzero, hone, ⟨hget, hvariable _ rfl rfl rfl⟩,
    ⟨hreserved, hnodup, tellable_start, hexpression hreserved hnodup tellable_start _ rfl rfl⟩,
    hstored, hkey, htrim, hrender, hvalues _ "points" hstored rfl hkey htrim hrender⟩

open Points in
/-- **The ways do not agree everywhere.** Beside a variable that has no text, or on the first day of
year one, an expression has no answer and does not hold. A key with a blank in front, or with a name
between braces, is not looked up as it is written. -/
theorem comparisons_agree_not :
    let clumsy := world [("x", .int 1), ("blob", .object [("raw", .bytes [0])])] []
    let ancient := { world [("x", .int 1)] [] with now := ⟨1, 1, 1, 12, 0, 0, 0⟩ }
    let odd := world [] [(" a", .int 1), ("\x7bhour\x7d", .int 1)]
    (∀ w ∈ [clumsy, ancient],
      (evaluate (question "var_lt" "2" "x") asker w).1 = .done true ∧
      (evaluate (question "expression" "x < 2" "") asker w).1 = .done false) ∧
    ∀ key ∈ [" a", "\x7bhour\x7d"],
      (odd.store.record asker.event.userId).get? key = some (.int 1) ∧
      (evaluate (question "data_equals" (key ++ "=1") "") asker odd).1 = .done false := by
  refine ⟨List.forall_mem_cons.mpr ⟨⟨?_, ?_⟩, List.forall_mem_singleton.mpr ⟨?_, ?_⟩⟩,
    List.forall_mem_cons.mpr ⟨⟨rfl, ?_⟩, List.forall_mem_singleton.mpr ⟨rfl, ?_⟩⟩⟩
  all_goals decide +kernel

end ChatFlow.Condition
