import ChatFlow.Expr.Evaluation
import ChatFlow.Proofs.Expr.Parsing

/-!
# The sandbox of expressions

An expression reads the variables that its text names, and calls nothing but builtins: whatever else
a table of variables holds is out of its reach.

* `Tree.names`, `Tree.calls` — the variables a tree reads, and the builtins it calls;
* `Tree.evaluate_congr` — evaluation reads no other variable;
* `Drawn` — a tree whose names are all identifiers of a list of tokens, kept by every step of the
  parser, also by those that make up for malformed text;
* `evaluate_sandboxed` — **what an expression comes to depends on the variables it spells**.
-/

namespace ChatFlow.Expr

/-! ## What a tree reads -/

/-- The variables a tree reads. -/
def Tree.names : Tree → List String
  | .literal _ => []
  | .name x => [x]
  | .call _ arg => arg.names
  | .unary _ operand => operand.names
  | .binary _ left right => left.names ++ right.names

/-- The builtins a tree calls. -/
def Tree.calls : Tree → List Builtin
  | .literal _ => []
  | .name _ => []
  | .call f arg => f :: arg.calls
  | .unary _ operand => operand.calls
  | .binary _ left right => left.calls ++ right.calls

theorem lookup_congr {vars vars' : Table Value} {x : String}
    (h : Value.orNull (vars.get? x) = Value.orNull (vars'.get? x)) :
    lookup vars x = lookup vars' x := by
  have hread (table : Table Value) :
      lookup table x = lookup [(x, Value.orNull (table.get? x))] x := by
    have hget (v : Value) : Table.get? [(x, v)] x = some v := by simp [Table.get?]
    rw [lookup, lookup, hget]
    rcases table.get? x with _ | v
    · rfl
    · cases v <;> rfl
  rw [hread vars, hread vars', h]

/-- **Evaluation reads the variables of the tree** and no others. -/
theorem Tree.evaluate_congr {vars vars' : Table Value} (t : Tree)
    (h : ∀ x ∈ t.names, lookup vars x = lookup vars' x) : t.evaluate vars = t.evaluate vars' := by
  induction t with
  | literal l => rfl
  | name x => rw [evaluate, evaluate, h x List.mem_cons_self]
  | call f arg ih => rw [evaluate, evaluate, ih h]
  | unary op operand ih => rw [evaluate, evaluate, ih h]
  | binary op left right ihl ihr =>
    have hl := ihl fun x hx => h x (List.mem_append_left _ hx)
    have hr := ihr fun x hx => h x (List.mem_append_right _ hx)
    cases op <;> simp only [evaluate, hl, hr]

/-! ## Where names come from -/

/-- **A tree drawn from tokens**: what it reads and what it calls are identifiers among them. -/
structure Drawn (tokens : List Token) (t : Tree) : Prop where
  /-- the variables -/
  names : ∀ x ∈ t.names, .ident x ∈ tokens
  /-- the builtins -/
  calls : ∀ f ∈ t.calls, .ident f.name ∈ tokens

namespace Drawn

variable {tokens : List Token} {t left right : Tree}

theorem literal (l : Literal) : Drawn tokens (.literal l) := ⟨nofun, nofun⟩

theorem name {x : String} (hx : .ident x ∈ tokens) : Drawn tokens (.name x) where
  names _ hy := List.mem_singleton.mp hy ▸ hx
  calls := nofun

theorem call {f : Builtin} (hf : .ident f.name ∈ tokens) (h : Drawn tokens t) :
    Drawn tokens (.call f t) where
  names := h.names
  calls := List.forall_mem_cons.mpr ⟨hf, h.calls⟩

theorem unary (op : UnaryOp) (h : Drawn tokens t) : Drawn tokens (.unary op t) :=
  ⟨h.names, h.calls⟩

theorem binary (op : BinaryOp) (hl : Drawn tokens left) (hr : Drawn tokens right) :
    Drawn tokens (.binary op left right) where
  names := List.forall_mem_append.mpr ⟨hl.names, hr.names⟩
  calls := List.forall_mem_append.mpr ⟨hl.calls, hr.calls⟩

end Drawn

/-- A step of the parser that stays within some tokens. -/
structure Within (tokens : List Token) (result : Tree × Cursor) : Prop where
  /-- the tree is drawn from them -/
  drawn : Drawn tokens result.1
  /-- what is ahead is among them -/
  ahead : result.2.ahead ⊆ tokens

section

variable {tokens : List Token} {c : Cursor}

theorem next_subset (h : c.ahead ⊆ tokens) : c.next.ahead ⊆ tokens :=
  fun _ ht => h (List.mem_of_mem_tail ht)

theorem pastClosing_subset (h : c.ahead ⊆ tokens) : c.pastClosing.ahead ⊆ tokens := by
  unfold Cursor.pastClosing
  split
  · exact next_subset h
  · exact h

/-- An identifier that comes next is among the tokens. -/
theorem mem_of_peek {x : String} (h : c.ahead ⊆ tokens) (hx : c.peek = .ident x) :
    .ident x ∈ tokens := by
  obtain ⟨ahead, taken⟩ := c
  cases ahead with
  | nil => cases hx
  | cons t rest => exact h (hx ▸ List.mem_cons_self)

theorem name_of_callAt? {x : String} {f : Builtin} (h : callAt? x c = some f) : f.name = x := by
  grind [callAt?, Builtin.ofName?, Builtin.name]

/-- **No step of the parser makes up a name**, by the recursion of the parser. -/
theorem within_parseLevel (height : Nat) (c : Cursor) (h : c.ahead ⊆ tokens) :
    Within tokens (parseLevel height c).1 := by
  refine parseLevel.induct
    (fun height c => c.ahead ⊆ tokens → Within tokens (parseLevel height c).1)
    (fun height left c => Drawn tokens left → c.ahead ⊆ tokens →
      Within tokens (climb height left c).1)
    (fun c => c.ahead ⊆ tokens → Within tokens (parseUnary c).1)
    (fun c => c.ahead ⊆ tokens → Within tokens (parsePrimary c).1)
    ?tightest ?level ?operator ?noOperator ?bang ?minus ?noSign ?literal ?call ?name ?lparen ?other
    height c h
  case tightest =>
    intro c ih hc
    rw [parseLevel_zero]
    exact ih hc
  case level =>
    intro c height left after _ hl _ _ _ _ ihl ihc hc
    have hleft := ihl hc
    rw [hl] at hleft
    rw [parseLevel_succ, hl]
    exact ihc hleft.drawn hleft.ahead
  case operator =>
    intro height left c o ho _ right after _ hr _ _ _ _ ihr ihc hleft hc
    have hright := ihr (next_subset hc)
    rw [hr] at hright
    rw [climb_of_some ho, hr]
    exact ihc (hleft.binary o hright.drawn) hright.ahead
  case noOperator =>
    intro height left c ho hleft hc
    rw [climb_of_none ho]
    exact ⟨hleft, hc⟩
  case bang =>
    intro c hb _ _ _ _ _ ih hc
    have hoperand := ih (next_subset hc)
    rw [parseUnary_bang hb]
    exact ⟨hoperand.drawn.unary .not, hoperand.ahead⟩
  case minus =>
    intro c hm _ _ _ _ _ ih hc
    have hoperand := ih (next_subset hc)
    rw [parseUnary_minus hm]
    exact ⟨hoperand.drawn.unary .neg, hoperand.ahead⟩
  case noSign =>
    intro c hb hm ih hc
    rw [parseUnary_other hb hm]
    exact ih hc
  case literal =>
    intro c l hl hc
    rw [parsePrimary_literal hl]
    exact ⟨.literal l, next_subset hc⟩
  case call =>
    intro c x hx f hf _ _ _ _ _ _ ih hc
    have harg := ih (next_subset (next_subset hc))
    have hname := mem_of_peek hc hx
    rw [parsePrimary_call hx hf]
    exact ⟨harg.drawn.call (name_of_callAt? hf ▸ hname), pastClosing_subset harg.ahead⟩
  case name =>
    intro c x hx hf hc
    rw [parsePrimary_name hx hf]
    exact ⟨.name (mem_of_peek hc hx), next_subset hc⟩
  case lparen =>
    intro c hp _ _ _ _ _ ih hc
    have hinner := ih (next_subset hc)
    rw [parsePrimary_lparen hp]
    exact ⟨hinner.drawn, pastClosing_subset hinner.ahead⟩
  case other =>
    intro c hl hx hp hc
    rw [parsePrimary_other hl hx hp]
    exact ⟨.literal _, next_subset hc⟩

end

/-- The tree of a text is drawn from its tokens. -/
theorem drawn_parse (source : String) : Drawn (tokenize source) (parse source) :=
  (within_parseLevel 5 ⟨tokenize source, 0⟩ (List.Subset.refl _)).drawn

/-! ## The sandbox -/

/-- **An expression stays in its sandbox.** It calls builtins only, and under their names in its
text; it reads only variables that its text names. So it comes to the same, be it a value or a
fault, in any two tables that agree on those names, where nothing counts as missing; and writing or
erasing any other entry makes no difference. -/
theorem evaluate_sandboxed (source : String) :
    (∀ f ∈ (parse source).calls,
      f.name ∈ ["len", "num", "str", "abs"] ∧ .ident f.name ∈ tokenize source) ∧
    (∀ x ∈ (parse source).names, .ident x ∈ tokenize source) ∧
    (∀ vars vars' : Table Value,
      (∀ x, .ident x ∈ tokenize source →
        Value.orNull (vars.get? x) = Value.orNull (vars'.get? x)) →
      evaluate source vars = evaluate source vars') ∧
    (∀ (vars : Table Value) (x : String), .ident x ∉ tokenize source →
      (∀ v, evaluate source (vars.insert x v) = evaluate source vars) ∧
        evaluate source (vars.erase x) = evaluate source vars) := by
  have hdrawn := drawn_parse source
  have hagree : ∀ vars vars' : Table Value,
      (∀ x, .ident x ∈ tokenize source →
        Value.orNull (vars.get? x) = Value.orNull (vars'.get? x)) →
      evaluate source vars = evaluate source vars' := fun vars vars' h =>
    (parse source).evaluate_congr fun x hx => lookup_congr (h x (hdrawn.names x hx))
  refine ⟨fun f hf => ⟨?_, hdrawn.calls f hf⟩, hdrawn.names, hagree,
    fun vars x hx => ⟨fun v => hagree _ _ fun y hy => ?_, hagree _ _ fun y hy => ?_⟩⟩
  · cases f <;> decide
  · have hne : x ≠ y := fun heq => hx (heq ▸ hy)
    rw [Table.get?_insert, if_neg hne]
  · have hne : x ≠ y := fun heq => hx (heq ▸ hy)
    rw [Table.get?_erase_of_ne _ hne]

/-- An answer depends on the two variables it asks for, not on a password beside them. -/
theorem evaluate_sandboxed_level :
    (∀ x, .ident x ∈ tokenize "len(nick) > level" →
      Value.orNull (Table.get? [("nick", .text "ann"), ("level", .int 2), ("note", .null)] x) =
        Value.orNull (Table.get? [("level", .int 2), ("password", .text "pw"),
          ("nick", .text "ann")] x)) ∧
    evaluate "len(nick) > level" [("nick", .text "ann"), ("level", .int 2), ("note", .null)] =
      evaluate "len(nick) > level" [("level", .int 2), ("password", .text "pw"),
        ("nick", .text "ann")] := by
  have htokens : tokenize "len(nick) > level" =
      [.ident "len", .lparen, .ident "nick", .rparen, .op .gt, .ident "level", .stop] := by
    decide +kernel
  have hagree : ∀ x, .ident x ∈ tokenize "len(nick) > level" →
      Value.orNull (Table.get? [("nick", .text "ann"), ("level", .int 2), ("note", .null)] x) =
        Value.orNull (Table.get? [("level", .int 2), ("password", .text "pw"),
          ("nick", .text "ann")] x) := by
    intro x hx
    rw [htokens] at hx
    have hx : x = "len" ∨ x = "nick" ∨ x = "level" := by simpa using hx
    rcases hx with rfl | rfl | rfl <;> rfl
  exact ⟨hagree, (evaluate_sandboxed "len(nick) > level").2.2.1 _ _ hagree⟩

end ChatFlow.Expr
