import ChatFlow.Proofs.Expr.Parsing

/-!
# How far the parser goes

Any list of tokens is parsed to an end, malformed ones included: end tokens may stand anywhere or
nowhere, and a step may take the end token that stands past the last token, but only once.

* `levelUpTo` — the parser with a bound on how deep its calls nest, and nothing else to end it;
* `levelUpTo_eq` — **ten calls for each token ahead are deep enough**, whatever the tokens are;
* `Extent` — the place where a step stops: the tokens it took are those it left out of sight, and at
  most one of them stands past the end;
* `Covers` — a tree has no more nodes than tokens were taken for it;
* `parseTokens_extent` — **the parser ends, within its tokens, with a tree no larger than they
  are**.
-/

namespace ChatFlow.Expr

/-! ## How deep calls nest -/

mutual

/-- The step of a level whose calls nest no deeper than `depth`; none where they would. -/
def levelUpTo : Nat → Nat → Cursor → Option (Tree × Cursor)
  | 0, _, _ => none
  | depth + 1, 0, c => unaryUpTo depth c
  | depth + 1, height + 1, c => do
    let (left, after) ← levelUpTo depth height c
    climbUpTo depth height left after

/-- The operators of a level after a left operand, each one call deeper than the one before. -/
def climbUpTo : Nat → Nat → Tree → Cursor → Option (Tree × Cursor)
  | 0, _, _, _ => none
  | depth + 1, height, left, c =>
    match opAt? (4 - height) c with
    | some o => do
      let (right, after) ← levelUpTo depth height c.next
      climbUpTo depth height (.binary o left right) after
    | none => some (left, c)

/-- An operand with the operators before it. -/
def unaryUpTo : Nat → Cursor → Option (Tree × Cursor)
  | 0, _ => none
  | depth + 1, c =>
    match c.peek with
    | .bang => do
      let (operand, after) ← unaryUpTo depth c.next
      some (.unary .not operand, after)
    | .op .sub => do
      let (operand, after) ← primaryUpTo depth c.next
      some (.unary .neg operand, after)
    | _ => primaryUpTo depth c

/-- An operand. -/
def primaryUpTo : Nat → Cursor → Option (Tree × Cursor)
  | 0, _ => none
  | depth + 1, c =>
    match c.peek with
    | .literal l => some (.literal l, c.next)
    | .ident x =>
      match callAt? x c.next with
      | some f => do
        let (arg, after) ← levelUpTo depth 5 c.next.next
        some (.call f arg, after.pastClosing)
      | none => some (.name x, c.next)
    | .lparen => do
      let (inner, after) ← levelUpTo depth 5 c.next
      some (inner, after.pastClosing)
    | _ => some (.literal (.number (.int 0)), c.next)

end

theorem exists_deeper {n depth : Nat} (h : n < depth) : ∃ d, depth = d + 1 ∧ n ≤ d :=
  ⟨depth - 1, by omega, by omega⟩

/-- **Ten calls for each token ahead are deep enough.** Each level of operators is a call of its
own, and what goes round in the calls takes a token, by the recursion of the parser. -/
theorem levelUpTo_eq (height : Nat) (c : Cursor) {depth : Nat}
    (hdepth : 10 * c.ahead.length + height + 3 < depth) :
    levelUpTo depth height c = some (parseLevel height c).1 := by
  refine parseLevel.induct
    (fun height c => ∀ depth, 10 * c.ahead.length + height + 3 < depth →
      levelUpTo depth height c = some (parseLevel height c).1)
    (fun height left c => ∀ depth, 10 * c.ahead.length + height + 3 < depth →
      climbUpTo depth height left c = some (climb height left c).1)
    (fun c => ∀ depth, 10 * c.ahead.length + 2 < depth →
      unaryUpTo depth c = some (parseUnary c).1)
    (fun c => ∀ depth, 10 * c.ahead.length + 1 < depth →
      primaryUpTo depth c = some (parsePrimary c).1)
    ?tightest ?level ?operator ?noOperator ?bang ?minus ?noSign ?literal ?call ?name ?lparen ?other
    height c depth hdepth
  case tightest =>
    intro c ih depth h
    obtain ⟨depth, rfl, h⟩ := exists_deeper h
    rw [levelUpTo, parseLevel_zero]
    exact ih depth (by omega)
  case level =>
    intro c height left after hle hl _ _ _ _ ihl ihc depth h
    obtain ⟨depth, rfl, h⟩ := exists_deeper h
    have hleft := ihl depth (by omega)
    rw [hl] at hleft
    rw [levelUpTo, parseLevel_succ, hl, hleft]
    exact ihc depth (by omega)
  case operator =>
    intro height left c o ho hstep right after hle hr _ _ _ _ ihr ihc depth h
    obtain ⟨depth, rfl, h⟩ := exists_deeper h
    have hright := ihr depth (by omega)
    rw [hr] at hright
    rw [climbUpTo, climb_of_some ho, hr, ho]
    simp only [hright]
    exact ihc depth (by omega)
  case noOperator =>
    intro height left c ho depth h
    obtain ⟨depth, rfl, h⟩ := exists_deeper h
    rw [climbUpTo, climb_of_none ho, ho]
  case bang =>
    intro c hb hstep _ _ _ _ ih depth h
    obtain ⟨depth, rfl, h⟩ := exists_deeper h
    rw [unaryUpTo, parseUnary_bang hb, hb]
    simp only [ih depth (by omega)]
    rfl
  case minus =>
    intro c hm hstep _ _ _ _ ih depth h
    obtain ⟨depth, rfl, h⟩ := exists_deeper h
    rw [unaryUpTo, parseUnary_minus hm, hm]
    simp only [ih depth (by omega)]
    rfl
  case noSign =>
    intro c hb hm ih depth h
    obtain ⟨depth, rfl, h⟩ := exists_deeper h
    rw [unaryUpTo, parseUnary_other hb hm]
    split
    · next hpeek => exact absurd hpeek hb
    · next hpeek => exact absurd hpeek hm
    · exact ih depth (by omega)
  case literal =>
    intro c l hl depth h
    obtain ⟨depth, rfl, h⟩ := exists_deeper h
    rw [primaryUpTo, parsePrimary_literal hl, hl]
  case call =>
    intro c x hx f hf hstep _ _ _ _ _ ih depth h
    obtain ⟨depth, rfl, h⟩ := exists_deeper h
    rw [primaryUpTo, parsePrimary_call hx hf, hx]
    simp only [hf, ih depth (by omega)]
    rfl
  case name =>
    intro c x hx hf depth h
    obtain ⟨depth, rfl, h⟩ := exists_deeper h
    rw [primaryUpTo, parsePrimary_name hx hf, hx]
    simp only [hf]
  case lparen =>
    intro c hp hstep _ _ _ _ ih depth h
    obtain ⟨depth, rfl, h⟩ := exists_deeper h
    rw [primaryUpTo, parsePrimary_lparen hp, hp]
    simp only [ih depth (by omega)]
    rfl
  case other =>
    intro c hl hx hp depth h
    obtain ⟨depth, rfl, h⟩ := exists_deeper h
    rw [primaryUpTo, parsePrimary_other hl hx hp]
    split
    · next l hpeek => exact absurd hpeek (hl l)
    · next x hpeek => exact absurd hpeek (hx x)
    · next hpeek => exact absurd hpeek hp
    · rfl

/-! ## Where a step stops -/

/-- **How far a step goes** from one place to another. -/
structure Extent (c c' : Cursor) : Prop where
  /-- it goes on from where it began -/
  onward : c.taken ≤ c'.taken
  /-- what it took is what is no longer ahead -/
  ahead : c'.ahead = c.ahead.drop (c'.taken - c.taken)
  /-- it takes at most one token past the last -/
  reach : c'.taken + c'.ahead.length ≤ c.taken + c.ahead.length + 1

namespace Extent

variable {c c' c'' : Cursor}

theorem refl (c : Cursor) : Extent c c := ⟨Nat.le_refl _, by simp, Nat.le_succ _⟩

theorem next (c : Cursor) : Extent c c.next := by
  refine ⟨Nat.le_succ _, ?_, ?_⟩
  · simp [Cursor.next]
  · simp only [Cursor.next, List.length_tail]
    omega

/-- What is ahead of the second place follows what was taken. -/
theorem ahead_trans (h : Extent c c') (h' : Extent c' c'') :
    c''.ahead = c.ahead.drop (c''.taken - c.taken) := by
  have ho := h.onward
  have ho' := h'.onward
  rw [h'.ahead, h.ahead, List.drop_drop]
  congr 1
  omega

/-- A step from the place after a token goes as far as one that takes the token, too. -/
theorem of_next (hpeek : c.peek ≠ .stop) (h : Extent c.next c') : Extent c c' := by
  have hlt := Cursor.next_lt hpeek
  have hreach := h.reach
  have honward := h.onward
  have htaken : c.next.taken = c.taken + 1 := rfl
  exact ⟨by omega, (next c).ahead_trans h, by omega⟩

/-- **One step after another**, where the second one does nothing unless there is a token ahead. -/
theorem trans (h : Extent c c') (h' : Extent c' c'') (hend : c'.ahead = [] → c'' = c') :
    Extent c c'' := by
  have ho := h.onward
  have ho' := h'.onward
  refine ⟨by omega, h.ahead_trans h', ?_⟩
  by_cases hnil : c'.ahead = []
  · rw [hend hnil]
    exact h.reach
  · -- as long as a token is ahead, none past the last was taken
    have hpos : 0 < c'.ahead.length := List.length_pos_iff.mpr hnil
    have hlength := congrArg List.length h.ahead
    rw [List.length_drop] at hlength
    have hreach := h'.reach
    omega

end Extent

theorem peek_of_nil {c : Cursor} (h : c.ahead = []) : c.peek = .stop := by
  rw [Cursor.peek, h]
  rfl

theorem pastClosing_of_nil {c : Cursor} (h : c.ahead = []) : c.pastClosing = c := by
  rw [Cursor.pastClosing, peek_of_nil h, if_neg nofun]

theorem extent_pastClosing (c : Cursor) : Extent c c.pastClosing := by
  unfold Cursor.pastClosing
  split
  · exact .next c
  · exact .refl c

/-- **What a step makes of the tokens it takes**, on top of a tree it has in hand: it stops within
them, and each node it adds has cost a token. -/
structure Covers (hand : Nat) (c : Cursor) (result : Tree × Cursor) : Prop where
  /-- the place where it stops -/
  extent : Extent c result.2
  /-- no more nodes than tokens -/
  size : c.taken + result.1.size ≤ result.2.taken + hand

namespace Covers

variable {hand : Nat} {c c' : Cursor} {t : Tree} {result : Tree × Cursor}

/-- A tree of one node for a token. -/
theorem leaf (c : Cursor) (h : t.size = 1) : Covers 0 c (t, c.next) := by
  refine ⟨.next c, ?_⟩
  simp only [h, Cursor.next]
  omega

/-- A step from the place after a token, which pays for one more node. -/
theorem of_next (hpeek : c.peek ≠ .stop) (h : Covers 0 c.next (t, c')) {t' : Tree}
    (hsize : t'.size ≤ t.size + hand + 1) : Covers hand c (t', c') := by
  have hpaid := h.size
  simp only [Cursor.next] at hpaid
  refine ⟨h.extent.of_next hpeek, ?_⟩
  dsimp only
  omega

/-- **One step after another**, where the second one has the tree of the first in hand. -/
theorem trans (h : Covers hand c (t, c')) (h' : Covers t.size c' result)
    (hend : c'.ahead = [] → result.2 = c') : Covers hand c result := by
  have hsize := h.size
  have hsize' := h'.size
  refine ⟨h.extent.trans h'.extent hend, ?_⟩
  dsimp only at hsize
  omega

theorem pastClosing (h : Covers hand c (t, c')) : Covers hand c (t, c'.pastClosing) := by
  have hon := (extent_pastClosing c').onward
  refine h.trans ⟨extent_pastClosing c', ?_⟩ pastClosing_of_nil
  dsimp only
  omega

end Covers

/-- Past the last token there is no operator to go on with. -/
theorem climb_of_nil {height : Nat} {left : Tree} {c : Cursor} (h : c.ahead = []) :
    (climb height left c).1 = (left, c) := by
  refine climb_of_none ?_
  rw [opAt?, peek_of_nil h]

/-- **Every step of the parser pays for its nodes** and stops within its tokens, by the recursion of
the parser. -/
theorem covers_parseLevel (height : Nat) (c : Cursor) : Covers 0 c (parseLevel height c).1 := by
  refine parseLevel.induct
    (fun height c => Covers 0 c (parseLevel height c).1)
    (fun height left c => Covers left.size c (climb height left c).1)
    (fun c => Covers 0 c (parseUnary c).1)
    (fun c => Covers 0 c (parsePrimary c).1)
    ?tightest ?level ?operator ?noOperator ?bang ?minus ?noSign ?literal ?call ?name ?lparen ?other
    height c
  case tightest =>
    intro c ih
    rw [parseLevel_zero]
    exact ih
  case level =>
    intro c height left after _ hl _ _ _ _ ihl ihc
    rw [hl] at ihl
    rw [parseLevel_succ, hl]
    exact ihl.trans ihc fun hnil => congrArg Prod.snd (climb_of_nil hnil)
  case operator =>
    intro height left c o ho _ right after _ hr _ _ _ _ ihr ihc
    have hpeek : c.peek ≠ .stop := by simp [peek_of_opAt? ho]
    rw [hr] at ihr
    rw [climb_of_some ho, hr]
    have hjoined : Covers left.size c (.binary o left right, after) :=
      ihr.of_next hpeek (by simp only [Tree.size]; omega)
    exact hjoined.trans ihc fun hnil => congrArg Prod.snd (climb_of_nil hnil)
  case noOperator =>
    intro height left c ho
    rw [climb_of_none ho]
    exact ⟨.refl c, Nat.le_refl _⟩
  case bang =>
    intro c hb _ _ _ _ _ ih
    rw [parseUnary_bang hb]
    exact ih.of_next (by simp [hb]) (Nat.le_refl _)
  case minus =>
    intro c hm _ _ _ _ _ ih
    rw [parseUnary_minus hm]
    exact ih.of_next (by simp [hm]) (Nat.le_refl _)
  case noSign =>
    intro c hb hm ih
    rw [parseUnary_other hb hm]
    exact ih
  case literal =>
    intro c l hl
    rw [parsePrimary_literal hl]
    exact .leaf c rfl
  case call =>
    intro c x hx f hf _ _ _ _ _ _ ih
    have hparen : c.next.peek ≠ .stop := by simp [peek_of_callAt? hf]
    rw [parsePrimary_call hx hf]
    have harg : Covers 0 c.next (parseLevel 5 c.next.next).1 :=
      ih.of_next hparen (Nat.le_succ _)
    exact (harg.of_next (by simp [hx]) (Nat.le_refl _)).pastClosing
  case name =>
    intro c x hx hf
    rw [parsePrimary_name hx hf]
    exact .leaf c rfl
  case lparen =>
    intro c hp _ _ _ _ _ ih
    rw [parsePrimary_lparen hp]
    exact (ih.of_next (by simp [hp]) (Nat.le_succ _)).pastClosing
  case other =>
    intro c hl hx hp
    rw [parsePrimary_other hl hx hp]
    exact .leaf c rfl

/-- **The parser ends, whatever the tokens are**: with its calls nested no deeper than ten for each
token, at a place that is at most one past the end, what is ahead of it being what it did not take,
and with a tree of no more nodes than the tokens it took. -/
theorem parseTokens_extent (tokens : List Token) :
    ∃ t c, levelUpTo (10 * tokens.length + 9) 5 ⟨tokens, 0⟩ = some (t, c) ∧
      parseTokens tokens = (t, c) ∧ c.ahead = tokens.drop c.taken ∧
      c.taken ≤ tokens.length + 1 ∧ t.size ≤ c.taken := by
  have hends : levelUpTo (10 * tokens.length + 9) 5 ⟨tokens, 0⟩ = some (parseTokens tokens) :=
    levelUpTo_eq 5 ⟨tokens, 0⟩ (Nat.lt_succ_self _)
  have hcovers : Covers 0 ⟨tokens, 0⟩ (parseTokens tokens) := covers_parseLevel 5 ⟨tokens, 0⟩
  rcases hresult : parseTokens tokens with ⟨t, c⟩
  rw [hresult] at hends hcovers
  have hreach := hcovers.extent.reach
  have hsize := hcovers.size
  simp only [Nat.zero_add] at hreach hsize
  exact ⟨t, c, hends, rfl, hcovers.extent.ahead, by omega, hsize⟩

/-- A lone sign: the operand that is missing is taken past the end, and reads as zero. -/
example : parseTokens [.op .sub] = (.unary .neg (.literal (.number (.int 0))), ⟨[], 2⟩) := by
  decide +kernel

end ChatFlow.Expr
