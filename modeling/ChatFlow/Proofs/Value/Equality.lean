import ChatFlow.Expr.Evaluation
import ChatFlow.Proofs.Number.Literals
import ChatFlow.Proofs.Number.Order

/-!
# Loose equality

Values of any two kinds can be compared: a truth value counts as its number beside anything but another
one, text beside a number is read as one, and where a list or a map comes in, the texts of both sides
are compared.

* `Value.looseTurn`, `Value.Settles` — the comparison as it is gone about, one turn after the other, and
  `Value.settles_iff`: **it comes to an end**, with what `Value.looseEquals` gives;
* `Value.looseEquals_comm` — **the sides can be exchanged**;
* `Value.looseEquals_self` — **a value equals itself**, unless it is not a number;
* `Value.exists_looseEquals_ok` — when there is an answer;
* `Value.looseEquals_laws` — all of that, and what it says of `==` and `!=` in expressions.
-/

namespace ChatFlow

namespace Value

/-! ## Turns -/

/-- **One turn of a comparison**: it is settled, or handed on with the number of a truth value. -/
def looseTurn : Value → Value → Except Fault Bool ⊕ (Value × Value)
  | .null, .null => .inl (.ok true)
  | .null, _ => .inl (.ok false)
  | _, .null => .inl (.ok false)
  | .bool a, .bool b => .inl (.ok (a = b))
  | .bool a, b => .inr (.number (bool a).toNumber, b)
  | a, .bool b => .inr (a, .number (bool b).toNumber)
  | a, b => .inl (looseEqualsPlain a b)

/-- **A comparison that comes to an end**, and its outcome. -/
inductive Settles : Value → Value → Except Fault Bool → Prop where
  /-- at once -/
  | now {a b : Value} {r : Except Fault Bool} (h : looseTurn a b = .inl r) : Settles a b r
  /-- after it was handed on -/
  | later {a b a' b' : Value} {r : Except Fault Bool} (h : looseTurn a b = .inr (a', b'))
    (rest : Settles a' b' r) : Settles a b r

/-- Handing on leaves no truth value, so it is done once at most. -/
theorem settles_looseEquals (a b : Value) : Settles a b (a.looseEquals b) := by
  cases a <;> cases b <;> first | exact .now rfl | exact .later rfl (.now rfl)

/-- There is one outcome only. -/
theorem Settles.unique {a b : Value} {r r' : Except Fault Bool} (h : Settles a b r)
    (h' : Settles a b r') : r = r' := by
  induction h with
  | now hturn =>
    cases h' with
    | now hturn' => exact Sum.inl.inj (hturn.symm.trans hturn')
    | later hturn' => cases hturn.symm.trans hturn'
  | later hturn _ ih =>
    cases h' with
    | now hturn' => cases hturn.symm.trans hturn'
    | later hturn' hrest =>
      obtain ⟨rfl, rfl⟩ := Prod.mk.inj (Sum.inr.inj (hturn.symm.trans hturn'))
      exact ih hrest

/-- **Every comparison comes to an end**, with the outcome of loose equality. -/
theorem settles_iff {a b : Value} {r : Except Fault Bool} :
    Settles a b r ↔ a.looseEquals b = r := by
  constructor
  · exact fun h => (settles_looseEquals a b).unique h
  · rintro rfl
    exact settles_looseEquals a b

/-! ## Comparing texts -/

/-- **What is compared by its text alone**: bytes, lists and maps. -/
def isCompound : Value → Bool
  | .bytes _ | .list _ | .tuple _ | .object _ => true
  | _ => false

/-- **A value with a text.** -/
def Worded (v : Value) : Prop := ∃ s, v.toText = .ok s

/-- A value that has a text if it is compared by its text alone. -/
def Comparable (v : Value) : Prop := v.isCompound = true → v.Worded

/-- Not a number. -/
def isNaN : Value → Bool
  | .number n => n.isNaN
  | _ => false

/-- Two values compared by their texts. -/
def sameText (a b : Value) : Except Fault Bool := do
  let x ← toText a
  let y ← toText b
  return x = y

section

variable {a b : Value}

theorem sameText_of_left {x : String} (h : a.toText = .ok x) :
    sameText a b = b.toText.map fun y => decide (x = y) := by
  rw [sameText, h]
  cases b.toText <;> rfl

theorem sameText_of_right {y : String} (h : b.toText = .ok y) :
    sameText a b = a.toText.map fun x => decide (x = y) := by
  rw [sameText]
  cases a.toText with
  | error f => rfl
  | ok x =>
    rw [h]
    rfl

/-- **Texts can be exchanged** where one of them is there: what fails then is the other. -/
theorem sameText_comm (h : a.Worded) : sameText a b = sameText b a := by
  obtain ⟨x, hx⟩ := h
  rw [sameText_of_left hx, sameText_of_right hx]
  simp only [eq_comm]

theorem sameText_self (h : a.Worded) : sameText a a = .ok true := by
  obtain ⟨x, hx⟩ := h
  rw [sameText_of_left hx, hx]
  exact congrArg Except.ok (decide_eq_true rfl)

theorem exists_sameText_ok (ha : a.Worded) (hb : b.Worded) : ∃ p, sameText a b = .ok p := by
  obtain ⟨x, hx⟩ := ha
  obtain ⟨y, hy⟩ := hb
  exact ⟨_, by rw [sameText_of_left hx, hy]; rfl⟩

/-! ## Comparing plain values -/

/-- Only a number can lack a text. -/
theorem Comparable.worded (h : a.Comparable) (hne : ∀ n, a ≠ .number n) : a.Worded := by
  cases a with
  | null => exact ⟨_, rfl⟩
  | bool p => exact ⟨_, rfl⟩
  | number n => exact absurd rfl (hne n)
  | text s => exact ⟨_, rfl⟩
  | _ => exact h rfl

/-- Neither a number nor text. -/
def Other (v : Value) : Prop := (∀ n, v ≠ .number n) ∧ ∀ s, v ≠ .text s

/-- **What a value can be compared as.** -/
inductive Manner : Value → Prop where
  /-- a number -/
  | number (n : Number) : Manner (.number n)
  /-- text -/
  | text (s : String) : Manner (.text s)
  /-- its text, whatever it is compared with -/
  | other {v : Value} (h : v.Other) : Manner v

theorem manner (v : Value) : v.Manner := by
  cases v with
  | number n => exact .number n
  | text s => exact .text s
  | _ => exact .other ⟨nofun, nofun⟩

/-- What is neither a number nor text is compared by its text, on either side. -/
theorem Other.looseEqualsPlain (h : a.Other) (b : Value) :
    looseEqualsPlain a b = sameText a b ∧ looseEqualsPlain b a = sameText b a := by
  constructor <;> unfold Value.looseEqualsPlain <;> split <;>
    first | rfl | exact absurd rfl (h.1 _) | exact absurd rfl (h.2 _)

theorem Other.looseEqualsPlain_comm (h : a.Other) (ha : a.Comparable) (b : Value) :
    Value.looseEqualsPlain a b = Value.looseEqualsPlain b a := by
  obtain ⟨hleft, hright⟩ := h.looseEqualsPlain b
  rw [hleft, hright, sameText_comm (ha.worded h.1)]

/-- **Numbers and texts can be exchanged**, and so can all that is compared by its text. -/
theorem looseEqualsPlain_comm (ha : a.Comparable) (hb : b.Comparable) :
    looseEqualsPlain a b = looseEqualsPlain b a := by
  cases a.manner with
  | number m =>
    cases b.manner with
    | number n => exact congrArg Except.ok (m.equal_comm n)
    | text t => exact congrArg Except.ok (m.equal_comm (Number.ofText t))
    | other hother => exact (hother.looseEqualsPlain_comm hb _).symm
  | text s =>
    cases b.manner with
    | number n => exact congrArg Except.ok ((Number.ofText s).equal_comm n)
    | text t => exact congrArg Except.ok (decide_eq_decide.mpr eq_comm)
    | other hother => exact (hother.looseEqualsPlain_comm hb _).symm
  | other hother => exact hother.looseEqualsPlain_comm ha b

theorem looseEqualsPlain_self (ha : a.Comparable) : looseEqualsPlain a a = .ok (!a.isNaN) := by
  cases a with
  | number n => exact congrArg Except.ok n.equal_self
  | text s => exact congrArg Except.ok (decide_eq_true rfl)
  | _ => exact sameText_self (ha.worded nofun)

/-! ## Loose equality -/

theorem Comparable.unbool (h : a.Comparable) : a.unbool.Comparable := by
  cases a with
  | bool p => exact nofun
  | _ => exact h

theorem Worded.unbool (h : a.Worded) : a.unbool.Worded := by
  cases a with
  | bool p => exact ⟨_, toText_int (by cases p <;> decide)⟩
  | _ => exact h

theorem isNaN_unbool : a.unbool.isNaN = a.isNaN := by
  cases a <;> rfl

/-- **Beside nothing there is no equality** but of nothing. -/
theorem looseEquals_null (h : a ≠ .null) :
    a.looseEquals .null = .ok false ∧ looseEquals .null a = .ok false := by
  cases a <;> first | exact absurd rfl h | exact ⟨rfl, rfl⟩

/-- All else is compared with truth values as their numbers, two of them included. -/
theorem looseEquals_eq_plain (ha : a ≠ .null) (hb : b ≠ .null) :
    a.looseEquals b = looseEqualsPlain a.unbool b.unbool := by
  cases a <;> cases b <;> try first | exact absurd rfl ha | exact absurd rfl hb | rfl
  next p q => cases p <;> cases q <;> rfl

/-- **The sides can be exchanged.** -/
theorem looseEquals_comm (ha : a.Comparable) (hb : b.Comparable) :
    a.looseEquals b = b.looseEquals a := by
  by_cases hna : a = .null
  · subst hna
    by_cases hnb : b = .null
    · rw [hnb]
    · rw [(looseEquals_null hnb).1, (looseEquals_null hnb).2]
  by_cases hnb : b = .null
  · rw [hnb, (looseEquals_null hna).1, (looseEquals_null hna).2]
  rw [looseEquals_eq_plain hna hnb, looseEquals_eq_plain hnb hna,
    looseEqualsPlain_comm ha.unbool hb.unbool]

/-- **A value equals itself**, unless it is not a number. -/
theorem looseEquals_self (ha : a.Comparable) : a.looseEquals a = .ok (!a.isNaN) := by
  by_cases hna : a = .null
  · rw [hna]
    rfl
  rw [looseEquals_eq_plain hna hna, looseEqualsPlain_self ha.unbool, isNaN_unbool]

/-- **There is an answer** where both texts are there, or none is asked for. -/
theorem exists_looseEquals_ok (h : a.Worded ∧ b.Worded ∨
    a.isCompound = false ∧ b.isCompound = false) : ∃ p, a.looseEquals b = .ok p := by
  rcases h with ⟨ha, hb⟩ | ⟨ha, hb⟩
  · by_cases hna : a = .null
    · subst hna
      cases b <;> exact ⟨_, rfl⟩
    by_cases hnb : b = .null
    · exact ⟨_, hnb ▸ (looseEquals_null hna).1⟩
    rw [looseEquals_eq_plain hna hnb]
    have hsame := exists_sameText_ok ha.unbool hb.unbool
    unfold looseEqualsPlain
    split <;> first | exact hsame | exact ⟨_, rfl⟩
  · cases a <;> cases ha <;> cases b <;> cases hb <;> exact ⟨_, rfl⟩

end

end Value

/-! ## In expressions -/

namespace Expr.Tree

variable {vars : Table Value} {l r : Tree} {a b : Value}

/-- An operator that needs both its operands is applied to their values. -/
theorem evaluate_binary {op : BinaryOp} (hor : op ≠ .or) (hand : op ≠ .and)
    (hl : l.evaluate vars = .ok a) (hr : r.evaluate vars = .ok b) :
    (binary op l r).evaluate vars = op.apply a b := by
  rw [Tree.evaluate, hl, hr]
  · rfl
  · exact hor
  · exact hand

theorem evaluate_eq (hl : l.evaluate vars = .ok a) (hr : r.evaluate vars = .ok b) :
    (binary .eq l r).evaluate vars = (a.looseEquals b).map .bool := by
  rw [evaluate_binary (by decide) (by decide) hl hr, BinaryOp.apply]
  cases a.looseEquals b <;> rfl

theorem evaluate_ne (hl : l.evaluate vars = .ok a) (hr : r.evaluate vars = .ok b) :
    (binary .ne l r).evaluate vars = (a.looseEquals b).map fun p => .bool !p := by
  rw [evaluate_binary (by decide) (by decide) hl hr, BinaryOp.apply]
  cases a.looseEquals b <;> rfl

end Expr.Tree

namespace Value

/-- **Loose equality is symmetric, and reflexive** but for what is not a number. Values of all kinds are
compared, and any list or map among them has a text: each comparison comes to an end with one outcome, and
that is an answer unless a list or a map meets an integer that is too long to be written. In expressions,
`==` says the same of either order, and `!=` the opposite. -/
theorem looseEquals_laws {a b : Value} (ha : a.Comparable) (hb : b.Comparable) :
    a.looseEquals b = b.looseEquals a ∧
    (∀ r, Settles a b r ↔ a.looseEquals b = r) ∧
    (a.Worded ∧ b.Worded ∨ a.isCompound = false ∧ b.isCompound = false →
      ∃ p, a.looseEquals b = .ok p) ∧
    a.looseEquals a = .ok (!a.isNaN) ∧
    ∀ (vars : Table Value) (l r : Expr.Tree), l.evaluate vars = .ok a → r.evaluate vars = .ok b →
      (Expr.Tree.binary .eq l r).evaluate vars = (a.looseEquals b).map .bool ∧
      (Expr.Tree.binary .eq r l).evaluate vars = (a.looseEquals b).map .bool ∧
      (Expr.Tree.binary .ne l r).evaluate vars = (a.looseEquals b).map (fun p => .bool !p) ∧
      (Expr.Tree.binary .ne r l).evaluate vars = (a.looseEquals b).map (fun p => .bool !p) := by
  have hcomm := looseEquals_comm ha hb
  refine ⟨hcomm, fun _ => settles_iff, exists_looseEquals_ok, looseEquals_self ha, ?_⟩
  intro vars l r hl hr
  have heq := Expr.Tree.evaluate_eq hr hl
  have hne := Expr.Tree.evaluate_ne hr hl
  rw [← hcomm] at heq hne
  exact ⟨Expr.Tree.evaluate_eq hl hr, heq, Expr.Tree.evaluate_ne hl hr, hne⟩

/-- A list beside a truth value, which is compared by the text of its number. -/
theorem looseEquals_laws_list :
    (list [.int 1]).Comparable ∧ (bool true).Comparable ∧
    (list [.int 1]).looseEquals (.bool true) = .ok true ∧
    (bool true).looseEquals (.list [.int 1]) = .ok true ∧
    Settles (.list [.int 1]) (.bool true) (.ok true) ∧
    (list [.int 1]).looseEquals (.list [.int 1]) = .ok true ∧
    (Expr.Tree.binary .eq (.name "y") (.name "x")).evaluate
      [("x", .list [.int 1]), ("y", .bool true)] = .ok (.bool true) ∧
    (Expr.Tree.binary .ne (.name "x") (.name "y")).evaluate
      [("x", .list [.int 1]), ("y", .bool true)] = .ok (.bool false) := by
  have hlist : (list [.int 1]).Comparable := fun _ => ⟨"1", by decide +kernel⟩
  have hbool : (bool true).Comparable := nofun
  have hequal : (list [.int 1]).looseEquals (.bool true) = .ok true := by decide +kernel
  obtain ⟨hcomm, hsettles, -, hself, htrees⟩ := looseEquals_laws hlist hbool
  obtain ⟨-, heq, hne, -⟩ := htrees [("x", .list [.int 1]), ("y", .bool true)] (.name "x") (.name "y")
    rfl rfl
  rw [hequal] at hcomm heq hne
  exact ⟨hlist, hbool, hequal, hcomm.symm, (hsettles _).mpr hequal, hself, heq, hne⟩

end Value

end ChatFlow
