import ChatFlow.Expr.Evaluation
import ChatFlow.Proofs.Json.Documents
import ChatFlow.Proofs.Number.Range
import ChatFlow.Proofs.Number.Whole

/-!
# Where expressions overreach

Malformed text is made up for, a missing variable is zero and so is a division by zero. What is left
to fail are integers that no double can hold, where one is asked for.

* `Value.Scalar` — what expressions work with: truth values, numbers and text;
* `Builtin.Overreaches`, `UnaryOp.Overreaches`, `BinaryOp.Overreaches` — the operands that an
  operation fails for, and `apply_comes` of each: for no others;
* `Tree.Overreaches` — an operation of the tree is reached with such operands, `Tree.evaluate_comes`:
  **evaluation fails there and nowhere else**;
* `Tree.exists_vast` — only where an integer out of range has come up;
* `evaluate_degrades` — when authored text has a value, and when it can be asked for its truth.
-/

namespace ChatFlow

namespace Value

/-- **What expressions work with.** -/
inductive Scalar : Value → Prop where
  | bool (b : Bool) : Scalar (.bool b)
  | number (n : Number) : Scalar (.number n)
  | text (s : String) : Scalar (.text s)

/-- Read as a number, it is an integer out of range. -/
def Vast (v : Value) : Prop := v.toNumber.Vast

/-- Read as a number, it is an integer too long to be written. -/
def Endless (v : Value) : Prop := v.toNumber.Endless

theorem Endless.vast {v : Value} (h : v.Endless) : v.Vast := Number.Endless.vast h

theorem not_vast_bool (b : Bool) : ¬ (Value.bool b).Vast :=
  Number.not_vast_of_lt (by cases b <;> decide)

/-- A text that spells so large an integer is read as a double. -/
theorem not_vast_text (s : String) : ¬ (Value.text s).Vast := by
  intro h
  change (Number.ofText s).Vast at h
  rcases hread : Number.ofText s with n | x <;> rw [hread] at h
  · exact Number.not_vast_of_lt (Number.natAbs_lt_of_ofText hread) h
  · exact h

/-- **Only integers are out of range.** -/
theorem Scalar.eq_int {v : Value} (hv : v.Scalar) (h : v.Vast) :
    ∃ n, v = .int n ∧ Double.overflow ≤ n.natAbs := by
  cases hv with
  | bool b => exact absurd h (not_vast_bool b)
  | number n =>
    cases n with
    | int n => exact ⟨n, rfl, h⟩
    | double x => exact h.elim
  | text s => exact absurd h (not_vast_text s)

variable {v w : Value}

/-- **Truth** is there for all that is in range. -/
theorem truthy_comes (hv : v.Scalar) : ComesTo v.truthy (fun _ => True) v.Vast := by
  cases hv with
  | bool b => exact .ok trivial (not_vast_bool b)
  | number n => exact n.truthy_comes
  | text s => exact .ok trivial (not_vast_text s)

theorem numberText_comes (n : Number) : ComesTo (numberText n) (fun _ => True) n.Endless := by
  cases n with
  | int n =>
    rw [numberText]
    exact Number.intText?_comes n
  | double x =>
    obtain ⟨s, hs⟩ := Json.exists_doubleText x
    rw [hs]
    exact .ok trivial id

/-- **Text** is there for all that is not endless. -/
theorem toText_comes (hv : v.Scalar) : ComesTo v.toText (fun _ => True) v.Endless := by
  cases hv with
  | bool b => exact .ok trivial fun h => not_vast_bool b h.vast
  | number n =>
    rw [toText]
    exact numberText_comes n
  | text s => exact .ok trivial fun h => not_vast_text s h.vast

/-- Scalars can all be compared. -/
theorem exists_looseEquals (hv : v.Scalar) (hw : w.Scalar) : ∃ b, v.looseEquals w = .ok b := by
  cases hv <;> cases hw <;> exact ⟨_, rfl⟩

end Value

/-! ## Operations -/

namespace Expr

/-- **What a builtin fails for.** -/
def Builtin.Overreaches : Builtin → Value → Prop
  | .len, v | .str, v => v.Endless
  | .num, v => v.Vast
  | .abs, _ => False

/-- **What an operator before its operand fails for.** -/
def UnaryOp.Overreaches : UnaryOp → Value → Prop
  | .not, v => v.Vast
  | .neg, _ => False

/-- What a sum fails for. -/
def OverSum : Value → Value → Prop
  | .text _, b => b.Endless
  | a, .text _ => a.Endless
  | a, b => a.toNumber.Clash b.toNumber

/-- What a remainder fails for. That of an infinity does not look at the divisor. -/
def OverRemainder (x y : Number) : Prop := x.Vast ∨ x.isInfinite = .ok false ∧ y.Vast

/-- **What an operator between its operands fails for.** -/
def BinaryOp.Overreaches : BinaryOp → Value → Value → Prop
  | .or, a, b | .and, a, b => a.Vast ∨ b.Vast
  | .add, a, b => OverSum a b
  | .sub, a, b | .mul, a, b => a.toNumber.Clash b.toNumber
  | .div, a, b => b.toNumber.isZero = false ∧ a.toNumber.OverQuotient b.toNumber
  | .rem, a, b => b.toNumber.isZero = false ∧ OverRemainder a.toNumber b.toNumber
  | _, _, _ => False

variable {v a b : Value}

theorem Builtin.apply_comes (f : Builtin) (hv : v.Scalar) :
    ComesTo (f.apply v) Value.Scalar (f.Overreaches v) := by
  cases f with
  | len => exact (Value.toText_comes hv).thenReturn fun _ _ => .number _
  | num => exact v.toNumber.truthy_comes.thenReturn fun _ _ => .number _
  | str => exact (Value.toText_comes hv).thenReturn fun _ _ => .text _
  | abs => exact .ok (.number _) id

theorem UnaryOp.apply_comes (op : UnaryOp) (hv : v.Scalar) :
    ComesTo (op.apply v) Value.Scalar (op.Overreaches v) := by
  cases op with
  | not => exact (Value.truthy_comes hv).thenReturn fun _ _ => .bool _
  | neg => exact .ok (.number _) id

theorem plus_comes (ha : a.Scalar) (hb : b.Scalar) :
    ComesTo (plus a b) Value.Scalar (OverSum a b) := by
  have hjoined {c : Value} (hc : c.Scalar) (f : String → String) :
      ComesTo (do return .text (f (← c.toText))) Value.Scalar c.Endless :=
    (Value.toText_comes hc).thenReturn fun _ _ => .text _
  have hsum : ComesTo ((a.toNumber.add b.toNumber).map Value.number) Value.Scalar
      (a.toNumber.Clash b.toNumber) :=
    (Number.combine_comes _ _ _ _).map fun _ _ => .number _
  cases ha with
  | text s => exact hjoined hb (s ++ ·)
  | bool p =>
    cases hb with
    | text s => exact hjoined (.bool p) (· ++ s)
    | bool q => exact hsum
    | number y => exact hsum
  | number x =>
    cases hb with
    | text s => exact hjoined (.number x) (· ++ s)
    | bool q => exact hsum
    | number y => exact hsum

theorem quotient_comes (x y : Number) :
    ComesTo (quotient x y) (fun _ => True) (y.isZero = false ∧ x.OverQuotient y) := by
  rw [quotient]
  cases hy : y.isZero with
  | true => exact .ok trivial nofun
  | false => exact ((x.div_comes y hy).map fun _ _ => trivial).congr (and_iff_right rfl).symm

theorem remainder_comes (x y : Number) :
    ComesTo (remainder x y) (fun _ => True) (y.isZero = false ∧ OverRemainder x y) := by
  rw [remainder]
  cases hy : y.isZero with
  | true => exact .ok trivial nofun
  | false =>
    have hdivided : ComesTo (do
        if ← x.isInfinite then return Number.nan
        return (Number.double (← x.rem y)).narrow) (fun _ => True)
        (x.Vast ∨ ∃ p, x.isInfinite = .ok p ∧ p = false ∧ (x.Vast ∨ y.Vast)) := by
      refine x.isInfinite_comes.bind fun p _ _ => ?_
      cases p with
      | true => exact .ok trivial nofun
      | false =>
        exact ((x.rem_comes y).thenReturn fun _ _ => trivial).congr (and_iff_right rfl).symm
    refine hdivided.congr (.trans ?_ (and_iff_right rfl).symm)
    constructor
    · rintro (hx | ⟨_, hfinite, rfl, hx | hy⟩)
      · exact .inl hx
      · exact .inl hx
      · exact .inr ⟨hfinite, hy⟩
    · rintro (hx | ⟨hfinite, hy⟩)
      · exact .inl hx
      · exact .inr ⟨false, hfinite, rfl, .inr hy⟩

theorem BinaryOp.apply_comes (op : BinaryOp) (ha : a.Scalar) (hb : b.Scalar) :
    ComesTo (op.apply a b) Value.Scalar (op.Overreaches a b) := by
  have hequal (f : Bool → Bool) :
      ComesTo (do return .bool (f (← a.looseEquals b))) Value.Scalar False := by
    obtain ⟨p, hp⟩ := Value.exists_looseEquals ha hb
    rw [hp]
    exact .ok (.bool (f p)) id
  have hboth (f : Bool → Bool → Bool) : ComesTo (do
      let p ← a.truthy
      let q ← b.truthy
      return .bool (f p q)) Value.Scalar (a.Vast ∨ b.Vast) :=
    (Value.truthy_comes ha).andThen fun _ _ =>
      (Value.truthy_comes hb).thenReturn fun _ _ => .bool _
  cases op with
  | or => exact hboth (· || ·)
  | and => exact hboth (· && ·)
  | eq => exact hequal id
  | ne => exact hequal (!·)
  | gt => exact .ok (.bool _) id
  | lt => exact .ok (.bool _) id
  | ge => exact .ok (.bool _) id
  | le => exact .ok (.bool _) id
  | add => exact plus_comes ha hb
  | sub => exact (Number.combine_comes _ _ _ _).map fun _ _ => .number _
  | mul => exact (Number.combine_comes _ _ _ _).map fun _ _ => .number _
  | div => exact (quotient_comes _ _).map fun _ _ => .number _
  | rem => exact (remainder_comes _ _).map fun _ _ => .number _

/-! ## Trees -/

/-- Whether the left operand decides, so that the right one is not looked at. -/
def BinaryOp.Decides : BinaryOp → Value → Prop
  | .or, a => a.truthy = .ok true
  | .and, a => a.truthy = .ok false
  | _, _ => False

/-- **Where evaluation overreaches**: it gets to an operation whose operands that fails for. -/
def Tree.Overreaches (vars : Table Value) : Tree → Prop
  | .literal _ | .name _ => False
  | .call f arg => arg.Overreaches vars ∨ ∃ v, arg.evaluate vars = .ok v ∧ f.Overreaches v
  | .unary op operand =>
    operand.Overreaches vars ∨ ∃ v, operand.evaluate vars = .ok v ∧ op.Overreaches v
  | .binary op left right =>
    left.Overreaches vars ∨ ∃ a, left.evaluate vars = .ok a ∧ ¬ op.Decides a ∧
      (right.Overreaches vars ∨ ∃ b, right.evaluate vars = .ok b ∧ op.Overreaches a b)

variable {vars : Table Value}

theorem scalar_lookup (hvars : ∀ entry ∈ vars, entry.2.Scalar) (x : String) :
    (lookup vars x).Scalar := by
  rw [lookup]
  split
  · exact .number _
  · exact .number _
  · next hv => exact hvars _ (Table.mem_of_get? hv)

/-- **A connective** asks for the truth of its left operand, and for that of the right one unless the
left one decides. -/
theorem connective_comes {r : Except Fault Value} {fails : Prop} (ha : a.Scalar)
    (hr : ComesTo r Value.Scalar fails) (decisive : Bool) {rest : Bool → Except Fault Value}
    (hdecided : rest decisive = .ok (.bool decisive))
    (hasked : rest (!decisive) = do return .bool (← (← r).truthy)) :
    ComesTo (a.truthy >>= rest) Value.Scalar
      (¬ a.truthy = .ok decisive ∧ (fails ∨ ∃ b, r = .ok b ∧ (a.Vast ∨ b.Vast))) := by
  have htruth := Value.truthy_comes ha
  rcases hp : a.truthy with f | p <;> rw [hp] at htruth
  · obtain ⟨hf, hvast⟩ := htruth.of_error
    refine .fault hf ⟨nofun, ?_⟩
    cases hr with
    | fault _ hfails => exact .inl hfails
    | ok _ _ => exact .inr ⟨_, rfl, .inl hvast⟩
  · obtain ⟨-, hvast⟩ := htruth.of_ok
    change ComesTo (rest p) _ _
    by_cases hdecides : p = decisive
    · subst hdecides
      rw [hdecided]
      exact .ok (.bool p) fun h => h.1 rfl
    · obtain rfl : p = !decisive := Bool.eq_not_of_ne hdecides
      have hright : ComesTo (do return .bool (← (← r).truthy)) Value.Scalar
          (fails ∨ ∃ b, r = .ok b ∧ b.Vast) :=
        hr.bind fun b _ hb => (Value.truthy_comes hb).thenReturn fun _ _ => .bool _
      rw [hasked]
      refine hright.congr ?_
      simp [hvast]

/-- **Evaluation fails where it overreaches**, and nowhere else. -/
theorem Tree.evaluate_comes (hvars : ∀ entry ∈ vars, entry.2.Scalar) (t : Tree) :
    ComesTo (t.evaluate vars) Value.Scalar (t.Overreaches vars) := by
  induction t with
  | literal l => exact .ok (by cases l <;> constructor) id
  | name x => exact .ok (scalar_lookup hvars x) id
  | call f arg ih => exact ih.bind fun _ _ hv => f.apply_comes hv
  | unary op operand ih => exact ih.bind fun _ _ hv => op.apply_comes hv
  | binary op left right ihl ihr =>
    have hstrict : ComesTo (do
        let a ← left.evaluate vars
        let b ← right.evaluate vars
        op.apply a b) Value.Scalar
        (left.Overreaches vars ∨ ∃ a, left.evaluate vars = .ok a ∧
          (right.Overreaches vars ∨ ∃ b, right.evaluate vars = .ok b ∧ op.Overreaches a b)) :=
      ihl.bind fun a _ ha => ihr.bind fun b _ hb => op.apply_comes ha hb
    cases op with
    | or =>
      rw [evaluate]
      exact ihl.bind fun a _ ha => connective_comes ha ihr true rfl rfl
    | and =>
      rw [evaluate]
      exact ihl.bind fun a _ ha => connective_comes ha ihr false rfl rfl
    | _ => simpa [evaluate, Overreaches, BinaryOp.Decides] using hstrict

/-! ## Integers that come up -/

/-- The expressions that a tree is made of, itself among them. -/
def Tree.subtrees : Tree → List Tree
  | .literal l => [.literal l]
  | .name x => [.name x]
  | .call f arg => .call f arg :: arg.subtrees
  | .unary op operand => .unary op operand :: operand.subtrees
  | .binary op left right => .binary op left right :: (left.subtrees ++ right.subtrees)

theorem Tree.mem_subtrees_self (t : Tree) : t ∈ t.subtrees := by
  cases t <;> exact List.mem_cons_self

theorem Builtin.Overreaches.vast {f : Builtin} (h : f.Overreaches v) : v.Vast := by
  cases f with
  | len => exact Value.Endless.vast h
  | num => exact h
  | str => exact Value.Endless.vast h
  | abs => exact h.elim

theorem UnaryOp.Overreaches.vast {op : UnaryOp} (h : op.Overreaches v) : v.Vast := by
  cases op with
  | not => exact h
  | neg => exact h.elim

theorem OverSum.vast (h : OverSum a b) : a.Vast ∨ b.Vast := by
  unfold OverSum at h
  split at h
  · exact .inr (Value.Endless.vast h)
  · exact .inl (Value.Endless.vast h)
  · exact Number.Clash.vast h

theorem BinaryOp.Overreaches.vast {op : BinaryOp} (h : op.Overreaches a b) : a.Vast ∨ b.Vast := by
  cases op with
  | or => exact h
  | and => exact h
  | add => exact OverSum.vast h
  | sub => exact Number.Clash.vast h
  | mul => exact Number.Clash.vast h
  | div => exact Number.OverQuotient.vast h.1 h.2
  | rem => exact h.2.imp_right And.right
  | _ => exact h.elim

/-- An expression whose value is an integer out of range. -/
def Tree.Vast (vars : Table Value) (t : Tree) : Prop :=
  ∃ n, t.evaluate vars = .ok (.int n) ∧ Double.overflow ≤ n.natAbs

theorem Tree.vast_of_evaluate (hvars : ∀ entry ∈ vars, entry.2.Scalar) {t : Tree}
    (ht : t.evaluate vars = .ok v) (h : v.Vast) : t.Vast vars := by
  have hcomes := t.evaluate_comes hvars
  rw [ht] at hcomes
  obtain ⟨n, rfl, hn⟩ := hcomes.of_ok.1.eq_int h
  exact ⟨n, ht, hn⟩

/-- **Only where an integer out of range has come up** does evaluation overreach. -/
theorem Tree.exists_vast (hvars : ∀ entry ∈ vars, entry.2.Scalar) {t : Tree}
    (h : t.Overreaches vars) : ∃ part ∈ t.subtrees, part.Vast vars := by
  induction t with
  | literal l => exact h.elim
  | name x => exact h.elim
  | call f arg ih =>
    rcases h with hinner | ⟨v, hv, hfails⟩
    · obtain ⟨part, hpart, hvast⟩ := ih hinner
      exact ⟨part, List.mem_cons_of_mem _ hpart, hvast⟩
    · exact ⟨arg, List.mem_cons_of_mem _ arg.mem_subtrees_self, vast_of_evaluate hvars hv hfails.vast⟩
  | unary op operand ih =>
    rcases h with hinner | ⟨v, hv, hfails⟩
    · obtain ⟨part, hpart, hvast⟩ := ih hinner
      exact ⟨part, List.mem_cons_of_mem _ hpart, hvast⟩
    · exact ⟨operand, List.mem_cons_of_mem _ operand.mem_subtrees_self,
        vast_of_evaluate hvars hv hfails.vast⟩
  | binary op left right ihl ihr =>
    have hleft {part : Tree} (hpart : part ∈ left.subtrees) :
        part ∈ (binary op left right).subtrees :=
      List.mem_cons_of_mem _ (List.mem_append_left _ hpart)
    have hright {part : Tree} (hpart : part ∈ right.subtrees) :
        part ∈ (binary op left right).subtrees :=
      List.mem_cons_of_mem _ (List.mem_append_right _ hpart)
    rcases h with hinner | ⟨a, ha, -, hinner | ⟨b, hb, hfails⟩⟩
    · obtain ⟨part, hpart, hvast⟩ := ihl hinner
      exact ⟨part, hleft hpart, hvast⟩
    · obtain ⟨part, hpart, hvast⟩ := ihr hinner
      exact ⟨part, hright hpart, hvast⟩
    · rcases hfails.vast with hvast | hvast
      · exact ⟨left, hleft left.mem_subtrees_self, vast_of_evaluate hvars ha hvast⟩
      · exact ⟨right, hright right.mem_subtrees_self, vast_of_evaluate hvars hb hvast⟩

/-! ## Authored text -/

/-- **Expressions degrade up to the range of doubles.** Among truth values, numbers and texts, an
expression comes to one of them unless it overreaches, and has a truth unless it comes to an integer
out of range besides. Whatever fails is a number out of range or too long to be written, and then
some part of the expression has come to an integer that no double can hold: dividing by zero,
not-a-number, infinities and malformed text never make it fail. -/
theorem evaluate_degrades (source : String) {vars : Table Value}
    (hvars : ∀ entry ∈ vars, entry.2.Scalar) :
    ((∃ v, evaluate source vars = .ok v ∧ v.Scalar) ↔ ¬ (parse source).Overreaches vars) ∧
    ((∃ p, holds source vars = .ok p) ↔
      ¬ (parse source).Overreaches vars ∧ ∀ v, evaluate source vars = .ok v → ¬ v.Vast) ∧
    (∀ f, evaluate source vars = .error f ∨ holds source vars = .error f →
      f.OfRange ∧ ∃ part ∈ (parse source).subtrees, part.Vast vars) := by
  have hvalue : ComesTo (evaluate source vars) Value.Scalar ((parse source).Overreaches vars) :=
    (parse source).evaluate_comes hvars
  have htruth : ComesTo (holds source vars) (fun _ => True) ((parse source).Overreaches vars ∨
      ∃ v, evaluate source vars = .ok v ∧ v.Vast) :=
    hvalue.bind fun _ _ hv => Value.truthy_comes hv
  refine ⟨hvalue.exists_ok_iff, ?_, ?_⟩
  · have hiff := htruth.exists_ok_iff
    simpa [not_or] using hiff
  · rintro f (hf | hf)
    · rw [hf] at hvalue
      exact ⟨hvalue.of_error.1, Tree.exists_vast hvars hvalue.of_error.2⟩
    · rw [hf] at htruth
      refine ⟨htruth.of_error.1, ?_⟩
      rcases htruth.of_error.2 with hfails | ⟨v, hv, hvast⟩
      · exact Tree.exists_vast hvars hfails
      · exact ⟨parse source, Tree.mem_subtrees_self _, Tree.vast_of_evaluate hvars hv hvast⟩

/-- A remainder of zero, beside a connective. -/
theorem evaluate_degrades_level :
    (∀ entry ∈ [("level", Value.int 2), ("nick", .text "ann")], entry.2.Scalar) ∧
      ¬ (parse "level % 0 || nick").Overreaches [("level", .int 2), ("nick", .text "ann")] := by
  have hvars : ∀ entry ∈ [("level", Value.int 2), ("nick", .text "ann")], entry.2.Scalar := by
    intro entry h
    have h : entry = ("level", Value.int 2) ∨ entry = ("nick", .text "ann") := by simpa using h
    rcases h with rfl | rfl
    · exact .number _
    · exact .text _
  refine ⟨hvars, ((evaluate_degrades "level % 0 || nick" hvars).2.1.mp ⟨true, ?_⟩).1⟩
  decide +kernel

/-- **A variable out of range** cannot be asked for its truth. -/
theorem holds_vast : (∀ entry ∈ [("x", Value.int (10 ^ 400))], entry.2.Scalar) ∧
    holds "x" [("x", .int (10 ^ 400))] = .error .doubleRange := by
  refine ⟨fun entry h => ?_, by decide +kernel⟩
  obtain rfl := List.mem_singleton.mp h
  exact .number _

end Expr

end ChatFlow
