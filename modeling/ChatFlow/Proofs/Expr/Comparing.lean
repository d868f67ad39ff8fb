import ChatFlow.Expr.Evaluation
import ChatFlow.Proofs.Expr.Lexemes
import ChatFlow.Proofs.Expr.Parsing
import ChatFlow.Proofs.Number.Literals

/-!
# Comparing a variable with an integer

An expression of three lexemes: a name, a sign and the decimal text of an integer, whose minus belongs
to the numeral.

* `exists_numeral` — the decimal text of an integer is a lexeme;
* `tokenize_comparison`, `parse_comparison` — the tokens of a comparison, and its tree;
* `holds_comparison` — **it holds as the integers compare**, where the variable is one.
-/

namespace ChatFlow.Expr

/-- The text of a name. -/
def Name.text (x : Name) : String := String.ofList x.chars

/-- The operator for a comparison. -/
def BinaryOp.ofOrdering : Ordering → BinaryOp
  | .lt => .lt
  | .eq => .eq
  | .gt => .gt

/-- **A comparison** as it is written. -/
def comparison (x : Name) (op : BinaryOp) (n : Int) : String :=
  x.text ++ " " ++ op.symbol ++ " " ++ intText n

/-! ## Lexemes -/

theorem exists_figures (n : Nat) : ∃ f : Figures, f.chars = natDigits n := by
  obtain ⟨c, s, hdigits⟩ := List.exists_cons_of_ne_nil (natDigits_ne_nil n)
  have hall : ∀ d ∈ c :: s, isDigit d = true := by
    intro d hd
    exact isDigit_of_figure (isDigit_of_mem_natDigits (hdigits ▸ hd))
  refine ⟨⟨c, s, hall c List.mem_cons_self, fun d hd => ?_⟩, hdigits.symm⟩
  rw [isNumeralChar, hall d (List.mem_cons_of_mem _ hd), Bool.true_or]

/-- **The decimal text of an integer is a lexeme.** -/
theorem exists_numeral (n : Int) : ∃ minus f, (Lexeme.numeral minus f).spelling = intText n := by
  obtain ⟨f, hf⟩ := exists_figures n.natAbs
  refine ⟨decide (n < 0), f, ?_⟩
  rw [Lexeme.spelling, Lexeme.chars, hf, intText]
  by_cases h : n < 0
  · simp only [h, decide_true, if_true]
  · simp only [h, decide_false, if_false, Bool.false_eq_true]

variable (x : Name) (op : BinaryOp) {n : Int}

/-- **The tokens of a comparison.** -/
theorem tokenize_comparison (hn : n.natAbs < 2 ^ 53) : tokenize (comparison x op n) =
    [.ident x.text, .op op, .literal (.number (.int n)), .stop] := by
  obtain ⟨minus, f, hspelling⟩ := exists_numeral n
  have hnumeral : (intText n).toList = (Lexeme.numeral minus f).chars := by
    rw [← hspelling, Lexeme.spelling, String.toList_ofList]
  have htoken : (Lexeme.numeral minus f).token = .literal (.number (.int n)) := by
    rw [Lexeme.token, hspelling, Number.leading?_intText hn]
    rfl
  have hsource : (comparison x op n).toList =
      (Lexeme.name x).chars ++ spaced [.op op, .numeral minus f] := by
    have hspaced : spaced [.op op, .numeral minus f] =
        ' ' :: (op.symbol.toList ++ ' ' :: ((Lexeme.numeral minus f).chars ++ [])) := rfl
    rw [hspaced, comparison, Name.text]
    simp only [String.toList_append, String.toList_ofList, hnumeral, List.append_nil,
      List.append_assoc]
    rfl
  have hplaced : Lexeme.Placed [.op op, .numeral minus f] :=
    List.isChain_pair.mpr fun _ => rfl
  have hfirst : ∀ y ∈ [Lexeme.op op, .numeral minus f].head?, y.isSigned = true →
      (Lexeme.name x).opens = true := by simp [Lexeme.isSigned]
  rw [tokenize, hsource, tokensFrom_lexeme (.name x) (fun _ => rfl) (parted_spaced _),
    tokensFrom_spaced hplaced hfirst]
  exact congrArg (fun t => [Token.ident x.text, .op op, t, .stop]) htoken

/-- **The tree of a comparison.** -/
theorem parse_comparison (hn : n.natAbs < 2 ^ 53) : parse (comparison x op n) =
    .binary op (.name x.text) (.literal (.number (.int n))) := by
  have htakes := (Tree.sound (.binary op (.name x.text) (.literal (.number (.int n))))).takes
    (Nat.zero_le _) (follows_stop 0) 0
  have hprint : (Tree.binary op (.name x.text) (.literal (.number (.int n)))).printAt 0 =
      [.ident x.text, .op op, .literal (.number (.int n))] := by
    rw [Tree.printAt_of_le (Nat.zero_le _)]
    cases op <;> rfl
  rw [hprint, parseAt_zero] at htakes
  rw [parse, tokenize_comparison x op hn, parseTokens]
  exact congrArg Prod.fst htakes

/-- **A comparison holds as the integers compare.** -/
theorem holds_comparison {vars : Table Value} {k : Int} (r : Ordering)
    (hget : vars.get? x.text = some (.int k)) (hn : n.natAbs < 2 ^ 53) :
    holds (comparison x (.ofOrdering r) n) vars = .ok (compare k n == r) := by
  have hlookup : lookup vars x.text = .int k := by
    rw [lookup, hget]
    rfl
  rw [holds, evaluate, parse_comparison x _ hn]
  cases r
  all_goals
    simp only [BinaryOp.ofOrdering, Tree.evaluate, hlookup]
    rfl

end ChatFlow.Expr
