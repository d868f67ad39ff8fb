import ChatFlow.Expr.Token
import Mathlib.Data.List.Chain

/-!
# Reading lexemes back

Lexemes written one after the other with a space between any two are read back one by one: each
becomes its token, whatever stands in it.

* `Lexeme`, `Lexeme.chars`, `Lexeme.token` — **what may be written, how, and as what it counts**;
* one equation for each way a step of the tokenizer goes: the tokenizer is opened by these alone;
* `quoted_escaped` — a string stops at its own quote and nowhere before;
* `tokensFrom_lexeme` — a lexeme before a space or the end is one token, and decides whether a minus
  may be the sign of the numeral behind it;
* `tokenize_spellings` — **the tokens of lexemes joined by spaces**.
-/

namespace ChatFlow.Expr

/-! ## Lexemes -/

/-- One of the three quotes. -/
abbrev Quote : Type := { c : Char // isQuote c = true }

/-- **A name** that is none of the words for truth and falsehood. -/
structure Name where
  /-- its first character -/
  head : Char
  /-- the others -/
  tail : List Char
  /-- it begins as a name does -/
  begins : isNameStart head = true
  /-- and goes on as one -/
  goesOn : ∀ c ∈ tail, isNameChar c = true
  /-- it is not a word with a meaning of its own -/
  free : head :: tail ≠ "true".toList ∧ head :: tail ≠ "false".toList

/-- The characters of a name. -/
def Name.chars (x : Name) : List Char := x.head :: x.tail

/-- **An unsigned numeral**: a digit, then digits and points in any order. -/
structure Figures where
  /-- its first digit -/
  head : Char
  /-- the others, and the points -/
  tail : List Char
  /-- it begins with a digit -/
  begins : isDigit head = true
  /-- and goes on with digits and points -/
  goesOn : ∀ c ∈ tail, isNumeralChar c = true

/-- The characters of an unsigned numeral. -/
def Figures.chars (n : Figures) : List Char := n.head :: n.tail

/-- **What an expression is written with.** -/
inductive Lexeme where
  /-- an opening parenthesis -/
  | lparen
  /-- a closing parenthesis -/
  | rparen
  /-- an operator between operands; the minus may stand before one as well -/
  | op (o : BinaryOp)
  /-- an equation, or its opposite, with one sign of equality more -/
  | strict (negated : Bool)
  /-- the operator of negation -/
  | bang
  /-- one of the words for truth and falsehood -/
  | bool (b : Bool)
  /-- a name -/
  | name (x : Name)
  /-- a numeral, with its minus if it has one -/
  | numeral (minus : Bool) (n : Figures)
  /-- a string between quotes -/
  | text (quote : Quote) (content : String)

/-- A character of a string, behind a backslash where it could not stand by itself. -/
def escapedChar (quote c : Char) : List Char :=
  if c = '\\' || c = quote then ['\\', c] else [c]

/-- The content of a string as it stands between its quotes. -/
def escaped (quote : Char) (content : List Char) : List Char := content.flatMap (escapedChar quote)

namespace Lexeme

/-- The characters of a lexeme. -/
def chars : Lexeme → List Char
  | lparen => ['(']
  | rparen => [')']
  | op o => o.symbol.toList
  | strict negated => if negated then "!==".toList else "===".toList
  | bang => ['!']
  | bool b => if b then "true".toList else "false".toList
  | name x => x.chars
  | numeral minus n => if minus then '-' :: n.chars else n.chars
  | text quote content => quote.1 :: escaped quote.1 content.toList ++ [quote.1]

/-- **How a lexeme is spelled.** -/
def spelling (x : Lexeme) : String := String.ofList x.chars

/-- **The token of a lexeme.** -/
def token : Lexeme → Token
  | lparen => .lparen
  | rparen => .rparen
  | op o => .op o
  | strict negated => .op (if negated then .ne else .eq)
  | bang => .bang
  | bool b => .literal (.bool b)
  | name x => .ident (String.ofList x.chars)
  | x@(numeral _ _) => .literal (.number ((Number.leading? x.spelling).getD (.int 0)))
  | text _ content => .literal (.text content)

/-- An operator or an opening parenthesis: a minus behind it is the sign of a numeral. -/
def opens : Lexeme → Bool
  | lparen | op _ | strict _ | bang => true
  | _ => false

/-- A numeral with its minus. -/
def isSigned : Lexeme → Bool
  | numeral minus _ => minus
  | _ => false

end Lexeme

/-- **Lexemes in an order they are read in**: no numeral with a minus stands behind an operand,
where the minus would be an operator. -/
def Lexeme.Placed (xs : List Lexeme) : Prop :=
  xs.IsChain fun before next => next.isSigned = true → before.opens = true

instance (xs : List Lexeme) : Decidable (Lexeme.Placed xs) :=
  inferInstanceAs (Decidable (List.IsChain _ _))

/-! ## Classes of characters -/

section Classes

variable {c : Char}

/-- No digit is a blank: the tables have no range in common. -/
theorem isBlank_of_isDigit (h : isDigit c = true) : isBlank c = false := by
  have hdisjoint : ∀ d ∈ CharTable.digits, ∀ b ∈ CharTable.blank, d.2 < b.1 ∨ b.2 < d.1 := by decide
  have hdigit : inRanges CharTable.digits c.toNat = true := by
    rw [isDigit] at h
    split at h
    · simp only [Bool.and_eq_true, decide_eq_true_eq, Char.le_def, UInt32.le_iff_toNat_le] at h
      exact List.any_eq_true.mpr ⟨(48, 57), List.mem_cons_self, by simpa using h⟩
    · exact h
  obtain ⟨d, hd, hin⟩ := List.any_eq_true.mp hdigit
  rw [isBlank, inRanges, List.any_eq_false]
  intro b hb hblank
  simp only [Bool.and_eq_true, decide_eq_true_eq] at hin hblank
  rcases hdisjoint d hd b hb with hlt | hlt <;> omega

theorem code_of_isNameStart (h : isNameStart c = true) :
    65 ≤ c.toNat ∧ c.toNat ≤ 122 := by
  simp only [isNameStart, Bool.or_eq_true, Bool.and_eq_true, decide_eq_true_eq, Char.le_def,
    UInt32.le_iff_toNat_le] at h
  rcases h with (rfl | ⟨hlow, hhigh⟩) | ⟨hlow, hhigh⟩
  · decide
  · exact ⟨Nat.le_trans (by decide) hlow, hhigh⟩
  · exact ⟨hlow, Nat.le_trans hhigh (by decide)⟩

theorem isBlank_of_isNameStart (h : isNameStart c = true) : isBlank c = false := by
  have hcode := code_of_isNameStart h
  simp [isBlank, inRanges, CharTable.blank]
  omega

theorem isDigit_of_isNameStart (h : isNameStart c = true) : isDigit c = false := by
  have hcode := code_of_isNameStart h
  rw [isDigit, if_pos (by omega)]
  simp only [Bool.and_eq_false_iff, decide_eq_false_iff_not, Char.le_def, UInt32.le_iff_toNat_le]
  right
  exact Nat.not_le.mpr (Nat.lt_of_lt_of_le (by decide) hcode.1)

/-- The characters that operators begin with. -/
def signs : List Char := "=!><&|+-*/%".toList

theorem mem_signs {s rest : List Char} {t : Token} (h : operator? (c :: s) = some (t, rest)) :
    c ∈ signs := by
  unfold operator? at h
  split at h
  all_goals first
    | next heq =>
        obtain ⟨rfl, -⟩ := List.cons.inj heq
        decide
    | cases h

/-- A sign is nothing that the tokenizer asks for before operators. -/
theorem sign_alone : ∀ c ∈ signs, isBlank c = false ∧ isDigit c = false ∧ isQuote c = false ∧
    c ≠ '(' ∧ c ≠ ')' ∧ isNameStart c = false := by
  intro c hc
  have hall : signs.all (fun c => !isBlank c && !isDigit c && !isQuote c && c ≠ '(' && c ≠ ')' &&
      !isNameStart c) = true := by decide
  simpa [and_assoc] using List.all_eq_true.mp hall c hc

end Classes

/-! ## Steps of the tokenizer -/

section Steps

variable {free : Bool} {c : Char} {s rest : List Char}

theorem tokensFrom_nil (free : Bool) : tokensFrom free [] = [.stop] := by
  rw [tokensFrom]

theorem tokensFrom_blank (h : isBlank c = true) : tokensFrom free (c :: s) = tokensFrom free s := by
  rw [tokensFrom, if_pos h]

theorem tokensFrom_numeral (hb : isBlank c = false)
    (hd : isDigit c = true ∨ c = '-' ∧ digitNext s = true ∧ free = true) :
    tokensFrom free (c :: s) =
      .literal (.number (numeralValue (c :: s.takeWhile isNumeralChar))) ::
        tokensFrom false (s.dropWhile isNumeralChar) := by
  have hcond : (isDigit c || (c = '-' && digitNext s && free)) = true := by
    rcases hd with hd | ⟨rfl, hs, rfl⟩
    · simp [hd]
    · simp [hs]
  rw [tokensFrom, if_neg (by simp [hb]), if_pos hcond]

/-- No numeral begins here. -/
theorem tokensFrom_other (hb : isBlank c = false) (hd : isDigit c = false)
    (hm : c ≠ '-' ∨ digitNext s = false) : tokensFrom free (c :: s) =
      if isQuote c then
        .literal (.text (String.ofList (quoted c s).1)) :: tokensFrom false (quoted c s).2
      else if c = '(' then .lparen :: tokensFrom true s
      else if c = ')' then .rparen :: tokensFrom false s
      else match operator? (c :: s) with
        | some (t, rest) => t :: tokensFrom true rest
        | none =>
          if isNameStart c then
            wordToken (c :: s.takeWhile isNameChar) :: tokensFrom false (s.dropWhile isNameChar)
          else tokensFrom free s := by
  have hcond : ¬ (isDigit c || (c = '-' && digitNext s && free)) = true := by
    rcases hm with hm | hm <;> simp [hd, hm]
  rw [tokensFrom, if_neg (by simp [hb]), if_neg hcond]
  split
  · rfl
  · split
    · rfl
    · split
      · rfl
      · split <;> simp_all

theorem tokensFrom_quote (h : isQuote c = true) : tokensFrom free (c :: s) =
    .literal (.text (String.ofList (quoted c s).1)) :: tokensFrom false (quoted c s).2 := by
  have hplain : isBlank c = false ∧ isDigit c = false ∧ c ≠ '-' := by
    simp only [isQuote, Bool.or_eq_true, decide_eq_true_eq] at h
    rcases h with (rfl | rfl) | rfl <;> decide
  rw [tokensFrom_other hplain.1 hplain.2.1 (.inl hplain.2.2), if_pos h]

theorem tokensFrom_lparen : tokensFrom free ('(' :: s) = .lparen :: tokensFrom true s := by
  rw [tokensFrom_other (by decide) (by decide) (.inl (by decide)), if_neg (by decide), if_pos rfl]

theorem tokensFrom_rparen : tokensFrom free (')' :: s) = .rparen :: tokensFrom false s := by
  rw [tokensFrom_other (by decide) (by decide) (.inl (by decide)), if_neg (by decide),
    if_neg (by decide), if_pos rfl]

theorem tokensFrom_operator {t : Token} (h : operator? (c :: s) = some (t, rest))
    (hm : c ≠ '-' ∨ digitNext s = false) :
    tokensFrom free (c :: s) = t :: tokensFrom true rest := by
  obtain ⟨hb, hd, hq, hl, hr, -⟩ := sign_alone c (mem_signs h)
  rw [tokensFrom_other hb hd hm, if_neg (by simp [hq]), if_neg hl, if_neg hr, h]

theorem tokensFrom_word (h : isNameStart c = true) : tokensFrom free (c :: s) =
    wordToken (c :: s.takeWhile isNameChar) :: tokensFrom false (s.dropWhile isNameChar) := by
  have hop : operator? (c :: s) = none := by
    by_contra hsome
    obtain ⟨⟨t, rest⟩, hfound⟩ := Option.ne_none_iff_exists'.mp hsome
    have hsign := (sign_alone c (mem_signs hfound)).2.2.2.2.2
    simp [h] at hsign
  have hm : c ≠ '-' := by
    rintro rfl
    simp [isNameStart] at h
  have hq : isQuote c = false := by
    by_contra hq
    simp only [isQuote, Bool.not_eq_false, Bool.or_eq_true, decide_eq_true_eq] at hq
    rcases hq with (rfl | rfl) | rfl <;> simp [isNameStart] at h
  have hl : c ≠ '(' := by
    rintro rfl
    simp [isNameStart] at h
  have hr : c ≠ ')' := by
    rintro rfl
    simp [isNameStart] at h
  rw [tokensFrom_other (isBlank_of_isNameStart h) (isDigit_of_isNameStart h) (.inl hm),
    if_neg (by simp [hq]), if_neg hl, if_neg hr, hop]
  exact if_pos h

end Steps

/-! ## Strings -/

theorem quoted_quote (quote : Char) (rest : List Char) :
    quoted quote (quote :: rest) = ([], rest) := by
  cases rest <;> simp [quoted]

/-- **A string stops at its own quote** and nowhere before. -/
theorem quoted_escaped {quote : Char} (hq : quote ≠ '\\') (content rest : List Char) :
    quoted quote (escaped quote content ++ quote :: rest) = (content, rest) := by
  induction content with
  | nil => exact quoted_quote quote rest
  | cons c content ih =>
    rw [escaped, List.flatMap_cons, ← escaped, escapedChar]
    split
    · rw [List.append_assoc, List.cons_append, List.singleton_append, quoted.eq_def]
      simp [hq.symm, ih]
    · next hplain =>
      obtain ⟨hback, hown⟩ : c ≠ '\\' ∧ c ≠ quote := by simpa using hplain
      obtain ⟨d, s, hmore⟩ : ∃ d s, escaped quote content ++ quote :: rest = d :: s :=
        List.exists_cons_of_ne_nil (by simp)
      rw [List.append_assoc, List.singleton_append, hmore, quoted, if_neg hown, if_neg hback,
        ← hmore, ih]

/-! ## Lexemes in a text -/

/-- **Where a lexeme stops**: at the end of the text, or at the space before the next one. -/
def Parted (rest : List Char) : Prop := rest = [] ∨ ∃ s, rest = ' ' :: s

section Parted

variable {rest : List Char}

theorem Parted.takeWhile (h : Parted rest) (ok : Char → Bool) {xs : List Char}
    (hspace : ok ' ' = false) (hxs : ∀ c ∈ xs, ok c = true) :
    (xs ++ rest).takeWhile ok = xs ∧ (xs ++ rest).dropWhile ok = rest := by
  have hrest : rest.takeWhile ok = [] ∧ rest.dropWhile ok = rest := by
    rcases h with rfl | ⟨s, rfl⟩ <;> simp [hspace]
  rw [List.takeWhile_append_of_pos hxs, List.dropWhile_append_of_pos hxs, hrest.1, hrest.2]
  simp

theorem Parted.digitNext (h : Parted rest) : digitNext rest = false := by
  rcases h with rfl | ⟨s, rfl⟩ <;> rfl

theorem Parted.operator? (h : Parted rest) (o : BinaryOp) :
    operator? (o.symbol.toList ++ rest) = some (.op o, rest) := by
  rcases h with rfl | ⟨s, rfl⟩ <;> cases o <;> rfl

end Parted

variable {free : Bool} {rest : List Char}

theorem tokensFrom_op (o : BinaryOp) (h : Parted rest) :
    tokensFrom free (o.symbol.toList ++ rest) = .op o :: tokensFrom true rest := by
  have hop := h.operator? o
  obtain ⟨c, s, hsymbol, hminus⟩ : ∃ c s, o.symbol.toList = c :: s ∧ (c ≠ '-' ∨ s = []) := by
    cases o <;> exact ⟨_, _, rfl, by decide⟩
  rw [hsymbol, List.cons_append] at hop ⊢
  refine tokensFrom_operator hop (hminus.imp_right fun hs => ?_)
  rw [hs]
  exact h.digitNext

/-- A name, or a word for truth or falsehood. -/
theorem tokensFrom_chars {c : Char} {s : List Char} (hc : isNameStart c = true)
    (hs : ∀ c ∈ s, isNameChar c = true) (h : Parted rest) :
    tokensFrom free (c :: s ++ rest) = wordToken (c :: s) :: tokensFrom false rest := by
  obtain ⟨htake, hdrop⟩ := h.takeWhile isNameChar (by decide) hs
  rw [List.cons_append, tokensFrom_word hc, htake, hdrop]

theorem tokensFrom_name (x : Name) (h : Parted rest) :
    tokensFrom free (x.chars ++ rest) =
      .ident (String.ofList x.chars) :: tokensFrom false rest := by
  rw [Name.chars, tokensFrom_chars x.begins x.goesOn h, wordToken, if_neg x.free.1,
    if_neg x.free.2]

theorem tokensFrom_bool (b : Bool) (h : Parted rest) :
    tokensFrom free ((Lexeme.bool b).chars ++ rest) =
      .literal (.bool b) :: tokensFrom false rest := by
  cases b
  · exact tokensFrom_chars (s := "alse".toList) (by decide) (List.all_eq_true.mp (by decide)) h
  · exact tokensFrom_chars (s := "rue".toList) (by decide) (List.all_eq_true.mp (by decide)) h

theorem tokensFrom_figures (n : Figures) (h : Parted rest) : tokensFrom free (n.chars ++ rest) =
    .literal (.number (numeralValue n.chars)) :: tokensFrom false rest := by
  obtain ⟨htake, hdrop⟩ := h.takeWhile isNumeralChar (by decide) n.goesOn
  rw [Figures.chars, List.cons_append, tokensFrom_numeral (isBlank_of_isDigit n.begins)
    (.inl n.begins), htake, hdrop]

theorem tokensFrom_minus (n : Figures) (h : Parted rest) :
    tokensFrom true ('-' :: n.chars ++ rest) =
      .literal (.number (numeralValue ('-' :: n.chars))) :: tokensFrom false rest := by
  have hall : ∀ c ∈ n.chars, isNumeralChar c = true :=
    List.forall_mem_cons.mpr ⟨by simp [isNumeralChar, n.begins], n.goesOn⟩
  obtain ⟨htake, hdrop⟩ := h.takeWhile isNumeralChar (by decide) hall
  have hnext : digitNext (n.chars ++ rest) = true := n.begins
  rw [List.cons_append, tokensFrom_numeral (by decide) (.inr ⟨rfl, hnext, rfl⟩), htake, hdrop]

theorem tokensFrom_text (free : Bool) (quote : Quote) (content : List Char) (rest : List Char) :
    tokensFrom free (quote.1 :: escaped quote.1 content ++ [quote.1] ++ rest) =
      .literal (.text (String.ofList content)) :: tokensFrom false rest := by
  have hq : quote.1 ≠ '\\' := by
    intro hback
    have hquote := quote.2
    rw [hback] at hquote
    exact absurd hquote (by decide)
  rw [List.append_assoc, List.cons_append, List.singleton_append, tokensFrom_quote quote.2,
    quoted_escaped hq]

/-- **A lexeme is one token**, and says whether a minus behind it may be the sign of a numeral. A
numeral with its minus has to stand where it may. -/
theorem tokensFrom_lexeme (x : Lexeme) (hsign : x.isSigned = true → free = true) (h : Parted rest) :
    tokensFrom free (x.chars ++ rest) = x.token :: tokensFrom x.opens rest := by
  cases x with
  | lparen => exact tokensFrom_lparen
  | rparen => exact tokensFrom_rparen
  | op o => exact tokensFrom_op o h
  | strict negated => cases negated <;> exact tokensFrom_operator rfl (.inl (by decide))
  | bang =>
    have hop : operator? ('!' :: rest) = some (.bang, rest) := by
      rcases h with rfl | ⟨s, rfl⟩ <;> rfl
    exact tokensFrom_operator hop (.inl (by decide))
  | bool b => exact tokensFrom_bool b h
  | name x => exact tokensFrom_name x h
  | numeral minus n =>
    cases minus with
    | false => exact tokensFrom_figures n h
    | true =>
      obtain rfl := hsign rfl
      exact tokensFrom_minus n h
  | text quote content =>
    have htext := tokensFrom_text free quote content.toList rest
    rwa [String.ofList_toList] at htext

/-! ## Texts of lexemes -/

/-- Lexemes, each behind a space. -/
def spaced (xs : List Lexeme) : List Char := xs.flatMap fun x => ' ' :: x.chars

theorem spaced_cons (x : Lexeme) (xs : List Lexeme) :
    spaced (x :: xs) = ' ' :: (x.chars ++ spaced xs) := rfl

theorem parted_spaced (xs : List Lexeme) : Parted (spaced xs) := by
  cases xs with
  | nil => exact .inl rfl
  | cons x xs => exact .inr ⟨_, rfl⟩

theorem intercalate_eq (x : Lexeme) (xs : List Lexeme) :
    [' '].intercalate ((x :: xs).map Lexeme.chars) = x.chars ++ spaced xs := by
  induction xs generalizing x with
  | nil => simp [spaced]
  | cons y ys ih =>
    rw [List.map_cons, List.map_cons, List.intercalate_cons_cons, ← List.map_cons, ih y]
    simp [spaced]

/-- **Lexemes one after the other**, by induction on them: the tokenizer comes to each with a flag
that says what stands before it. -/
theorem tokensFrom_spaced {xs : List Lexeme} (h : Lexeme.Placed xs)
    (hfirst : ∀ x ∈ xs.head?, x.isSigned = true → free = true) :
    tokensFrom free (spaced xs) = xs.map Lexeme.token ++ [.stop] := by
  induction xs generalizing free with
  | nil => exact tokensFrom_nil free
  | cons x xs ih =>
    obtain ⟨hnext, hrest⟩ := List.isChain_cons.mp h
    rw [spaced_cons, tokensFrom_blank (by decide),
      tokensFrom_lexeme x (hfirst x rfl) (parted_spaced xs), ih hrest hnext]
    rfl

/-- **The tokens of lexemes joined by spaces** are theirs, one for each and in their order, and the
end token behind them. -/
theorem tokenize_spellings (xs : List Lexeme) (h : Lexeme.Placed xs) :
    tokenize (" ".intercalate (xs.map Lexeme.spelling)) = xs.map Lexeme.token ++ [.stop] := by
  have hchars : (" ".intercalate (xs.map Lexeme.spelling)).toList =
      [' '].intercalate (xs.map Lexeme.chars) := by
    simp [Lexeme.spelling, Function.comp_def]
  rw [tokenize, hchars]
  cases xs with
  | nil => exact tokensFrom_nil true
  | cons x xs =>
    rw [intercalate_eq, ← tokensFrom_spaced h fun _ _ _ => rfl, spaced_cons,
      tokensFrom_blank (by decide)]

/-- A difference with a signed number in it, and a string that holds its own quote, a backslash and
an operator. -/
def remark : List Lexeme :=
  [.lparen, .name ⟨'a', ".b1".toList, by decide, List.all_eq_true.mp (by decide), by decide⟩,
    .op .sub, .numeral true ⟨'7', ['.'], by decide, List.all_eq_true.mp (by decide)⟩, .rparen,
    .strict true,
    .text ⟨'\'', by decide⟩ "it's \\ == \"x\""]

theorem tokenize_spellings_remark : Lexeme.Placed remark ∧
    tokenize "( a.b1 - -7. ) !== 'it\\'s \\\\ == \"x\"'" =
      [.lparen, .ident "a.b1", .op .sub, .literal (.number (.int (-7))), .rparen, .op .ne,
        .literal (.text "it's \\ == \"x\""), .stop] := by
  have hplaced : Lexeme.Placed remark := by decide
  have hspelled : " ".intercalate (remark.map Lexeme.spelling) =
      "( a.b1 - -7. ) !== 'it\\'s \\\\ == \"x\"'" := by decide +kernel
  refine ⟨hplaced, ?_⟩
  rw [← hspelled, tokenize_spellings remark hplaced]
  decide +kernel

end ChatFlow.Expr
