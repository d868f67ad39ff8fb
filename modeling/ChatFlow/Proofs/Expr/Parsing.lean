import ChatFlow.Expr.Parser
import ChatFlow.Expr.Printer

/-!
# Parsing what was printed

The parser takes the tokens of a printed tree off a list of tokens and gives the tree back.

* one equation for each way a step of the parser goes: the parser is opened by these alone;
* `Takes` — a step takes some tokens off the head and leaves the rest;
* `Takes.loosen` — what a tight step takes, a looser one takes, as long as no operator of the looser
  level follows;
* `Climbs` — the left end of a chain of operators of one level is taken as an operand of the chain;
* `parseTokens_print` — **the parser inverts the printer**, down to the end token.
-/

namespace ChatFlow.Expr

/-! ## Steps of the parser -/

section Steps

variable {height : Nat} {c : Cursor}

theorem parseLevel_zero (c : Cursor) : (parseLevel 0 c).1 = (parseUnary c).1 := by
  rw [parseLevel]

theorem parseLevel_succ (height : Nat) (c : Cursor) : (parseLevel (height + 1) c).1 =
    (climb height (parseLevel height c).1.1 (parseLevel height c).1.2).1 := by
  rw [parseLevel]

theorem climb_of_some {left : Tree} {o : BinaryOp} (h : opAt? (4 - height) c = some o) :
    (climb height left c).1 = (climb height (.binary o left (parseLevel height c.next).1.1)
      (parseLevel height c.next).1.2).1 := by
  rw [climb]
  split
  · next o' h' =>
    obtain rfl := Option.some.inj (h.symm.trans h')
    rfl
  · next h' => simp [h] at h'

theorem climb_of_none {left : Tree} (h : opAt? (4 - height) c = none) :
    (climb height left c).1 = (left, c) := by
  rw [climb]
  split
  · next o h' => simp [h] at h'
  · rfl

theorem parseUnary_bang (h : c.peek = .bang) : (parseUnary c).1 =
    (.unary .not (parseUnary c.next).1.1, (parseUnary c.next).1.2) := by
  rw [parseUnary]
  split
  · rfl
  · next h' => simp [h] at h'
  · next h' _ => exact absurd h h'

theorem parseUnary_minus (h : c.peek = .op .sub) : (parseUnary c).1 =
    (.unary .neg (parsePrimary c.next).1.1, (parsePrimary c.next).1.2) := by
  rw [parseUnary]
  split
  · next h' => simp [h] at h'
  · rfl
  · next _ h' => exact absurd h h'

theorem parseUnary_other (hb : c.peek ≠ .bang) (hm : c.peek ≠ .op .sub) :
    (parseUnary c).1 = (parsePrimary c).1 := by
  rw [parseUnary]
  split
  · next h' => exact absurd h' hb
  · next h' => exact absurd h' hm
  · rfl

theorem parsePrimary_literal {l : Literal} (h : c.peek = .literal l) :
    (parsePrimary c).1 = (.literal l, c.next) := by
  rw [parsePrimary]
  split
  · next l' h' =>
    obtain rfl := Token.literal.inj (h.symm.trans h')
    rfl
  · next x h' => simp [h] at h'
  · next h' => simp [h] at h'
  · next h' _ _ => exact absurd h (h' l)

theorem parsePrimary_name {x : String} (h : c.peek = .ident x) (hf : callAt? x c.next = none) :
    (parsePrimary c).1 = (.name x, c.next) := by
  rw [parsePrimary]
  split
  · next l h' => simp [h] at h'
  · next x' h' =>
    obtain rfl := Token.ident.inj (h.symm.trans h')
    split
    · next f hf' => simp [hf] at hf'
    · rfl
  · next h' => simp [h] at h'
  · next _ h' _ => exact absurd h (h' x)

theorem parsePrimary_call {x : String} {f : Builtin} (h : c.peek = .ident x)
    (hf : callAt? x c.next = some f) : (parsePrimary c).1 =
      (.call f (parseLevel 5 c.next.next).1.1, (parseLevel 5 c.next.next).1.2.pastClosing) := by
  rw [parsePrimary]
  split
  · next l h' => simp [h] at h'
  · next x' h' =>
    obtain rfl := Token.ident.inj (h.symm.trans h')
    split
    · next f' hf' =>
      obtain rfl := Option.some.inj (hf.symm.trans hf')
      rfl
    · next hf' => simp [hf] at hf'
  · next h' => simp [h] at h'
  · next _ h' _ => exact absurd h (h' x)

theorem parsePrimary_lparen (h : c.peek = .lparen) : (parsePrimary c).1 =
    ((parseLevel 5 c.next).1.1, (parseLevel 5 c.next).1.2.pastClosing) := by
  rw [parsePrimary]
  split
  · next l h' => simp [h] at h'
  · next x h' => simp [h] at h'
  · rfl
  · next _ _ h' => exact absurd h h'

/-- A token that begins no operand reads as zero. -/
theorem parsePrimary_other (hl : ∀ l, c.peek ≠ .literal l) (hx : ∀ x, c.peek ≠ .ident x)
    (hp : c.peek ≠ .lparen) : (parsePrimary c).1 = (.literal (.number (.int 0)), c.next) := by
  rw [parsePrimary]
  split
  · next l h' => exact absurd h' (hl l)
  · next x h' => exact absurd h' (hx x)
  · next h' => exact absurd h' hp
  · rfl

end Steps

/-! ## Taking tokens -/

/-- The step of the parser for a place that asks for a level. -/
def parseAt (level : Nat) (c : Cursor) : Parsed c :=
  if level ≤ unaryLevel then parseLevel (unaryLevel - level) c else parsePrimary c

/-- **A step of the parser takes some tokens** off the head, as the tokens of a tree, and stops
before the rest. -/
def Takes (level : Nat) (tokens : List Token) (t : Tree) (rest : List Token) : Prop :=
  ∀ n, (parseAt level ⟨tokens ++ rest, n⟩).1 = (t, ⟨rest, n + tokens.length⟩)

/-- **What may follow a tree** in a place that asks for a level: neither an operator that would go on
with it nor a parenthesis that would make a call of it. -/
def Follows (level : Nat) (rest : List Token) : Prop :=
  rest.headD .stop ≠ .lparen ∧ ∀ o, rest.headD .stop = .op o → o.level < level

/-- Tokens that begin with an operand, not with an operator before one. -/
def Opens (tokens : List Token) : Prop :=
  ∃ t more, tokens = t :: more ∧ t ≠ .bang ∧ t ≠ .op .sub

/-- **The parser takes an operator at its level**, and at no other. -/
theorem mem_operatorsAt {o : BinaryOp} {level : Nat} : o ∈ operatorsAt level ↔ o.level = level := by
  unfold operatorsAt
  split
  case h_6 h0 h1 h2 h3 h4 =>
    have hother : o.level ≠ level := by
      rintro rfl
      cases o <;> simp_all [BinaryOp.level]
    exact iff_of_false List.not_mem_nil hother
  all_goals cases o <;> decide

theorem Follows.mono {level level' : Nat} {rest : List Token} (h : Follows level rest)
    (hle : level ≤ level') : Follows level' rest :=
  ⟨h.1, fun o ho => Nat.lt_of_lt_of_le (h.2 o ho) hle⟩

theorem follows_op (o : BinaryOp) (rest : List Token) : Follows (o.level + 1) (.op o :: rest) := by
  refine ⟨by simp, fun o' ho => ?_⟩
  obtain rfl : o = o' := by simpa using ho
  exact Nat.lt_succ_self _

theorem follows_rparen (level : Nat) (rest : List Token) : Follows level (.rparen :: rest) := by
  simp [Follows]

theorem follows_stop (level : Nat) : Follows level [.stop] := by
  simp [Follows]

/-- No operator of the level comes next where one may not follow. -/
theorem Follows.opAt? {level : Nat} {rest : List Token} (h : Follows level rest) (n : Nat) :
    opAt? level ⟨rest, n⟩ = none := by
  have hop : ∀ o, rest.headD .stop = .op o → o.level ≠ level := fun o ho =>
    Nat.ne_of_lt (h.2 o ho)
  unfold Expr.opAt? Cursor.peek
  split
  · next o ho => rw [if_neg (mt mem_operatorsAt.mp (hop o ho))]
  · rfl

theorem parseAt_of_le {level : Nat} (h : level ≤ unaryLevel) (c : Cursor) :
    parseAt level c = parseLevel (unaryLevel - level) c := if_pos h

theorem parseAt_zero (c : Cursor) : parseAt 0 c = parseLevel 5 c := rfl

theorem parseAt_primary (c : Cursor) : parseAt primaryLevel c = parsePrimary c := rfl

theorem parseAt_unary (c : Cursor) : (parseAt unaryLevel c).1 = (parseUnary c).1 := by
  rw [parseAt_of_le (Nat.le_refl _), Nat.sub_self, parseLevel_zero]

/-- A level of operators between operands: an operand of the next level, and then the chain. -/
theorem parseAt_chain {level : Nat} (h : level < unaryLevel) (c : Cursor) : (parseAt level c).1 =
    (climb (4 - level) (parseAt (level + 1) c).1.1 (parseAt (level + 1) c).1.2).1 := by
  have hs : unaryLevel - level = (4 - level) + 1 := by unfold unaryLevel at *; omega
  have ht : unaryLevel - (level + 1) = 4 - level := by unfold unaryLevel at *; omega
  rw [parseAt_of_le (Nat.le_of_lt h), parseAt_of_le h, hs, ht, parseLevel_succ]

/-- **What one step takes, the next looser one takes**, where no operator of its level follows. -/
theorem Takes.loosen {level : Nat} {tokens rest : List Token} {t : Tree}
    (h : Takes (level + 1) tokens t rest) (hl : level < primaryLevel) (hf : Follows level rest)
    (ho : Opens tokens ∨ level < unaryLevel) : Takes level tokens t rest := by
  intro n
  rcases Nat.lt_or_ge level unaryLevel with hlt | hge
  · have hn : 4 - (4 - level) = level := by unfold unaryLevel at hlt; omega
    rw [parseAt_chain hlt, h n]
    exact climb_of_none (by rw [hn]; exact hf.opAt? _)
  · -- at the level of operators before an operand, the tokens must begin with none
    obtain rfl : level = unaryLevel := by unfold primaryLevel unaryLevel at *; omega
    obtain ⟨first, more, rfl, hb, hm⟩ := ho.resolve_right (Nat.lt_irrefl _)
    have hpeek : Cursor.peek ⟨first :: more ++ rest, n⟩ = first := rfl
    rw [parseAt_unary, parseUnary_other (by rwa [hpeek]) (by rwa [hpeek])]
    exact h n

/-- A looser step takes what a tight one takes: as many levels as there are between them. -/
theorem Takes.loosenTo {level asked : Nat} {tokens rest : List Token} {t : Tree}
    (h : Takes level tokens t rest) (hle : asked ≤ level) (hl : level ≤ primaryLevel)
    (hf : Follows asked rest) (ho : Opens tokens ∨ level ≤ unaryLevel) :
    Takes asked tokens t rest := by
  induction level with
  | zero =>
    obtain rfl : asked = 0 := by omega
    exact h
  | succ level ih =>
    rcases Nat.lt_or_ge asked (level + 1) with hlt | hge
    · have hlevel : asked ≤ level := by omega
      have hnext : Takes level tokens t rest := h.loosen (by omega) (hf.mono hlevel)
        (ho.imp_right fun hu => by omega)
      exact ih hnext hlevel (by omega) (ho.imp_right fun hu => by omega)
    · obtain rfl : asked = level + 1 := by omega
      exact h

/-! ## Chains -/

/-- **A tree is the left end of a chain**: the step of the level takes its tokens as the left operand
of whatever operators of the level follow. -/
def Climbs (level : Nat) (t : Tree) (rest : List Token) : Prop :=
  ∀ n, (parseAt level ⟨t.printAt level ++ rest, n⟩).1 =
    (climb (4 - level) t ⟨rest, n + (t.printAt level).length⟩).1

/-- A tree that is not itself a chain of the level is one operand of it. -/
theorem Takes.climbs {level : Nat} {t : Tree} {rest : List Token}
    (h : Takes (level + 1) (t.printAt (level + 1)) t rest) (hl : level < unaryLevel)
    (hne : t.level ≠ level) : Climbs level t rest := by
  intro n
  rw [Tree.printAt_succ hne, parseAt_chain hl, h n]

/-- A chain ends where no operator of its level follows. -/
theorem Climbs.takes {level : Nat} {t : Tree} {rest : List Token} (h : Climbs level t rest)
    (hl : level < unaryLevel) (hf : Follows level rest) :
    Takes level (t.printAt level) t rest := by
  intro n
  have hn : 4 - (4 - level) = level := by unfold unaryLevel at hl; omega
  rw [h n]
  exact climb_of_none (by rw [hn]; exact hf.opAt? _)

/-- **A chain goes on** with an operator of its level and the operand behind it. -/
theorem Climbs.binary {op : BinaryOp} {left right : Tree} {rest : List Token}
    (hleft : Climbs op.level left
      (.op op :: (right.printAt (op.level + 1) ++ rest)))
    (hright : Takes (op.level + 1) (right.printAt (op.level + 1)) right rest) :
    Climbs op.level (.binary op left right) rest := by
  intro n
  have hop := op.level_le
  have hn : 4 - (4 - op.level) = op.level := by omega
  have hs : unaryLevel - (op.level + 1) = 4 - op.level := by unfold unaryLevel; omega
  have htokens : (Tree.binary op left right).printAt op.level =
      left.printAt op.level ++ .op op :: right.printAt (op.level + 1) :=
    Tree.printAt_of_le (Nat.le_refl op.level)
  have hnext : ∀ m, (parseLevel (4 - op.level) ⟨right.printAt (op.level + 1) ++ rest, m⟩).1 =
      (right, ⟨rest, m + (right.printAt (op.level + 1)).length⟩) := by
    intro m
    rw [← hs, ← parseAt_of_le (by unfold unaryLevel; omega)]
    exact hright m
  have hopAt : opAt? (4 - (4 - op.level)) ⟨.op op :: (right.printAt (op.level + 1) ++ rest),
      n + (left.printAt op.level).length⟩ = some op := by
    simp [hn, opAt?, Cursor.peek, mem_operatorsAt]
  rw [htokens, List.append_assoc, List.cons_append, hleft n, climb_of_some hopAt]
  simp only [Cursor.next, List.tail_cons]
  have hlength : n + (left.printAt op.level ++ .op op :: right.printAt (op.level + 1)).length =
      n + (left.printAt op.level).length + 1 + (right.printAt (op.level + 1)).length := by
    simp
    omega
  rw [hnext, hlength]

/-! ## Printed trees -/

/-- **What the parser makes of a printed tree**, wherever it stands. -/
structure Sound (t : Tree) : Prop where
  /-- the step for a place takes what is printed there -/
  takes {asked : Nat} {rest : List Token} : asked ≤ primaryLevel → Follows asked rest →
    Takes asked (t.printAt asked) t rest
  /-- it is the left end of any chain -/
  climbs {level : Nat} {rest : List Token} : level < unaryLevel → Follows (level + 1) rest →
    Climbs level t rest

theorem pastClosing_rparen (rest : List Token) (n : Nat) :
    Cursor.pastClosing ⟨.rparen :: rest, n⟩ = ⟨rest, n + 1⟩ := rfl

/-- Between parentheses a tree is an operand. -/
theorem Takes.parenthesised {t : Tree} {rest : List Token}
    (h : Takes 0 t.print t (.rparen :: rest)) :
    Takes primaryLevel (.lparen :: t.print ++ [.rparen]) t rest := by
  intro n
  have hin := h (n + 1)
  rw [parseAt_zero] at hin
  have hlength : n + (Token.lparen :: t.print ++ [Token.rparen]).length = n + 1 + t.print.length + 1 := by
    simp
    omega
  rw [List.append_assoc, parseAt_primary, parsePrimary_lparen rfl, hlength]
  change ((parseLevel 5 ⟨t.print ++ .rparen :: rest, n + 1⟩).1.1,
    (parseLevel 5 ⟨t.print ++ .rparen :: rest, n + 1⟩).1.2.pastClosing) = _
  rw [hin, pastClosing_rparen]

/-- **A tree is read back wherever it stands** as soon as it is read back at its own level, and as
the left end of a chain where it is one. -/
theorem sound_of_own {t : Tree}
    (how : ∀ {rest}, Follows t.level rest → Takes t.level t.print t rest)
    (hopens : Opens t.print ∨ t.level ≤ unaryLevel)
    (hchain : ∀ {rest}, t.level < unaryLevel → Follows (t.level + 1) rest →
      Climbs t.level t rest) : Sound t := by
  have hlevel := t.level_le
  -- in loose places without parentheses, in tight places between them
  have htakes : ∀ {asked rest}, asked ≤ primaryLevel → Follows asked rest →
      Takes asked (t.printAt asked) t rest := by
    intro asked rest ha hf
    rcases Nat.lt_or_ge t.level asked with hlt | hge
    · have hin : Takes 0 t.print t (.rparen :: rest) :=
        (how (follows_rparen _ _)).loosenTo (Nat.zero_le _) hlevel (follows_rparen _ _) hopens
      rw [Tree.printAt_of_lt hlt]
      exact hin.parenthesised.loosenTo ha (Nat.le_refl _) hf
        (.inl ⟨.lparen, _, rfl, by simp, by simp⟩)
    · rw [Tree.printAt_of_le hge]
      exact (how (hf.mono hge)).loosenTo hge hlevel hf hopens
  refine ⟨htakes, fun {level rest} hl hf => ?_⟩
  by_cases hown : t.level = level
  · subst hown
    exact hchain hl hf
  · have hnext : level + 1 ≤ primaryLevel := by unfold primaryLevel unaryLevel at *; omega
    exact (htakes hnext hf).climbs hl hown

theorem sound_literal (l : Literal) : Sound (.literal l) := by
  refine sound_of_own (fun _ n => ?_) (.inl ⟨_, _, rfl, by simp, by simp⟩)
    fun h => absurd h (Nat.not_lt.mpr (Nat.le_succ _))
  rw [Tree.level, parseAt_primary]
  exact parsePrimary_literal rfl

theorem sound_name (x : String) : Sound (.name x) := by
  refine sound_of_own (fun {rest} hf n => ?_) (.inl ⟨_, _, rfl, by simp, by simp⟩)
    fun h => absurd h (Nat.not_lt.mpr (Nat.le_succ _))
  have hcall : callAt? x ⟨rest, n + 1⟩ = none := by
    rw [callAt?, if_neg]
    exact hf.1
  rw [Tree.level, parseAt_primary]
  exact parsePrimary_name rfl hcall

theorem sound_call (f : Builtin) {arg : Tree} (h : Sound arg) : Sound (.call f arg) := by
  refine sound_of_own (fun {rest} _ n => ?_) (.inl ⟨_, _, rfl, by simp, by simp⟩)
    fun hl => absurd hl (Nat.not_lt.mpr (Nat.le_succ _))
  have hin := h.takes (Nat.zero_le _) (follows_rparen 0 rest) (n + 1 + 1)
  rw [parseAt_zero, Tree.printAt_of_le (Nat.zero_le _)] at hin
  have hcall : callAt? f.name ⟨.lparen :: (arg.print ++ .rparen :: rest), n + 1⟩ = some f := by
    rw [callAt?, if_pos (by simp [Cursor.peek])]
    exact Builtin.ofName?_name f
  have hlength : n + (Token.ident f.name :: .lparen :: arg.print ++ [Token.rparen]).length =
      n + 1 + 1 + arg.print.length + 1 := by
    simp
    omega
  rw [Tree.level, parseAt_primary, Tree.print, hlength, List.append_assoc,
    parsePrimary_call rfl hcall]
  change (Tree.call f (parseLevel 5 ⟨arg.print ++ .rparen :: rest, n + 1 + 1⟩).1.1,
    (parseLevel 5 ⟨arg.print ++ .rparen :: rest, n + 1 + 1⟩).1.2.pastClosing) = _
  rw [hin, pastClosing_rparen]

theorem sound_unary (op : UnaryOp) {operand : Tree} (h : Sound operand) :
    Sound (.unary op operand) := by
  refine sound_of_own (fun {rest} hf n => ?_) (.inr (Nat.le_refl _))
    fun hl => absurd hl (Nat.lt_irrefl _)
  have hf : Follows unaryLevel rest := hf
  rw [Tree.level, parseAt_unary, Tree.print]
  cases op with
  | not =>
    have hin := h.takes (Nat.le_succ unaryLevel) hf (n + 1)
    rw [parseAt_unary] at hin
    rw [List.cons_append, parseUnary_bang rfl]
    simp only [Cursor.next, List.tail_cons, UnaryOp.operandLevel]
    rw [← Tree.printAt, hin]
    simp only [List.length_cons]
    congr 2
    omega
  | neg =>
    have hin := h.takes (Nat.le_refl _) (hf.mono (Nat.le_succ unaryLevel)) (n + 1)
    rw [parseAt_primary] at hin
    rw [List.cons_append, parseUnary_minus rfl]
    simp only [Cursor.next, List.tail_cons, UnaryOp.operandLevel]
    rw [← Tree.printAt, hin]
    simp only [List.length_cons]
    congr 2
    omega

theorem sound_binary (op : BinaryOp) {left right : Tree} (hl : Sound left) (hr : Sound right) :
    Sound (.binary op left right) := by
  have hop : op.level < unaryLevel := Nat.lt_succ_of_le op.level_le
  have hnext : op.level + 1 ≤ primaryLevel := Nat.le_trans hop (by decide)
  have hchain : ∀ {rest}, Follows (op.level + 1) rest →
      Climbs op.level (.binary op left right) rest := fun hf =>
    (hl.climbs hop (follows_op op _)).binary (hr.takes hnext hf)
  refine sound_of_own (fun {rest} hf => ?_) (.inr (Nat.le_of_lt hop)) fun _ hf => hchain hf
  rw [← Tree.printAt_of_le (Nat.le_refl (Tree.binary op left right).level)]
  exact (hchain (hf.mono (Nat.le_succ _))).takes hop hf

/-- **Every printed tree is read back**, wherever it stands. -/
theorem Tree.sound (t : Tree) : Sound t := by
  induction t with
  | literal l => exact sound_literal l
  | name x => exact sound_name x
  | call f arg ih => exact sound_call f ih
  | unary op operand ih => exact sound_unary op ih
  | binary op left right ihl ihr => exact sound_binary op ihl ihr

/-- **The parser inverts the printer**: from the tokens of a tree and the end token it makes the
tree, and stops with nothing but the end token ahead. -/
theorem parseTokens_print (t : Tree) :
    parseTokens (t.print ++ [.stop]) = (t, ⟨[.stop], t.print.length⟩) := by
  have h := t.sound.takes (Nat.zero_le _) (follows_stop 0) 0
  rw [Tree.printAt_of_le (Nat.zero_le _), Nat.zero_add] at h
  exact h

/-- Each operator is looser than the one behind it, so no parentheses are needed: the tightest is in the
innermost tree. -/
def ladder : Tree :=
  .binary .or (.name "a") (.binary .and (.name "b") (.binary .lt (.name "c")
    (.binary .sub (.name "d") (.binary .rem (.name "e") (.unary .not (.unary .neg (.name "f")))))))

/-- The same operators the other way round, with parentheses wherever one is looser than its place. -/
def stack : Tree :=
  .unary .neg (.unary .not (.binary .mul (.binary .add (.binary .eq (.binary .and (.binary .or
    (.name "a") (.name "b")) (.name "c")) (.name "d")) (.name "e")) (.name "f")))

theorem parseTokens_print_ladder :
    ladder.print = [.ident "a", .op .or, .ident "b", .op .and, .ident "c", .op .lt, .ident "d", .op .sub,
      .ident "e", .op .rem, .bang, .op .sub, .ident "f"] ∧
    stack.print = [.op .sub, .lparen, .bang, .lparen, .lparen, .lparen, .lparen, .lparen, .ident "a",
      .op .or, .ident "b", .rparen, .op .and, .ident "c", .rparen, .op .eq, .ident "d", .rparen, .op .add,
      .ident "e", .rparen, .op .mul, .ident "f", .rparen, .rparen] ∧
    parseTokens [.ident "a", .op .or, .ident "b", .op .and, .ident "c", .op .lt, .ident "d", .op .sub,
      .ident "e", .op .rem, .bang, .op .sub, .ident "f", .stop] = (ladder, ⟨[.stop], 13⟩) ∧
    parseTokens [.op .sub, .lparen, .bang, .lparen, .lparen, .lparen, .lparen, .lparen, .ident "a",
      .op .or, .ident "b", .rparen, .op .and, .ident "c", .rparen, .op .eq, .ident "d", .rparen, .op .add,
      .ident "e", .rparen, .op .mul, .ident "f", .rparen, .rparen, .stop] = (stack, ⟨[.stop], 25⟩) :=
  ⟨rfl, rfl, parseTokens_print ladder, parseTokens_print stack⟩

/-- Of two differences, only the one on the right stands between parentheses. -/
example : Tree.print (.binary .sub (.binary .sub (.name "a") (.name "b"))
      (.binary .sub (.name "c") (.unary .neg (.name "d")))) =
    [.ident "a", .op .sub, .ident "b", .op .sub,
      .lparen, .ident "c", .op .sub, .op .sub, .ident "d", .rparen] := rfl

end ChatFlow.Expr
