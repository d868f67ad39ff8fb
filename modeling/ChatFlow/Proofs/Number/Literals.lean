import ChatFlow.Proofs.Number.Digits
import ChatFlow.Proofs.Number.Whole
import ChatFlow.Value.Loose

/-!
# Integers as text

What the readers of authored text make of an integer that is written out.

* `Numeral.IntegerText`, `Numeral.DecimalText` — the texts that the store takes for numbers;
* `intText_injective` — different integers have different texts;
* `Number.ofText_intText`, `Number.leading?_intText` — **the decimal text of an integer is read as it**,
  whole or at the head of a text;
* `Value.ofLiteral_integer`, `Value.exists_ofLiteral_other` — stored text of an integer, and of no
  number;
* `Value.ComesBack` — **how text that is stored comes back**, and `Value.ComesBack.exists_ofLiteral` —
  the value that is stored for it has that text.
-/

namespace ChatFlow

/-! ## Digits -/

section

variable {c : Char} {s : List Char}

theorem isDigit_bounds (h : c.isDigit = true) : 48 ≤ c.toNat ∧ c.toNat ≤ 57 := by
  simp only [Char.isDigit, Bool.and_eq_true, decide_eq_true_eq] at h
  exact h

theorem decimalValue?_of_isDigit (h : c.isDigit = true) :
    decimalValue? c = some (c.toNat - 48) := by
  obtain ⟨hlow, hhigh⟩ := isDigit_bounds h
  have hrange : '0' ≤ c ∧ c ≤ '9' := ⟨hlow, hhigh⟩
  rw [decimalValue?, if_pos (by omega), if_pos (by simpa using hrange)]

theorem isDecimal_of_isDigit (h : c.isDigit = true) : isDecimal c = true := by
  rw [isDecimal, decimalValue?_of_isDigit h]
  rfl

theorem isDigit_of_figure (h : c.isDigit = true) : isDigit c = true := by
  obtain ⟨hlow, hhigh⟩ := isDigit_bounds h
  have hrange : '0' ≤ c ∧ c ≤ '9' := ⟨hlow, hhigh⟩
  rw [isDigit, if_pos (by omega)]
  simpa using hrange

theorem isBlank_of_figure (h : c.isDigit = true) : isBlank c = false := by
  have hall : ∀ k < 10, inRanges CharTable.blank (48 + k) = false := by decide
  obtain ⟨hlow, hhigh⟩ := isDigit_bounds h
  have hcode : 48 + (c.toNat - 48) = c.toNat := by omega
  rw [isBlank, ← hcode]
  exact hall _ (by omega)

theorem decimalValue?_le {d : Nat} (h : decimalValue? c = some d) : d ≤ 9 := by
  unfold decimalValue? at h
  split at h
  · split at h
    · next hrange =>
      obtain rfl := Option.some.inj h
      have hhigh : c ≤ '9' := by simpa using (Bool.and_eq_true_iff.mp hrange).2
      have : c.toNat ≤ 57 := hhigh
      omega
    · cases h
  · obtain ⟨start, hfound, rfl⟩ := Option.map_eq_some_iff.mp h
    have hin := List.find?_some hfound
    simp only [Bool.and_eq_true, decide_eq_true_eq] at hin
    omega

namespace Numeral

theorem digitsValue_natDigits (n : Nat) : digitsValue (natDigits n) = n := by
  have hfold (s : List Char) (hs : ∀ c ∈ s, c.isDigit = true) (i : Nat) :
      s.foldl (fun n c => n * 10 + (decimalValue? c).getD 0) i =
        s.foldl (fun n c => n * 10 + (c.toNat - 48)) i := by
    induction s generalizing i with
    | nil => rfl
    | cons c s ih =>
      rw [List.forall_mem_cons] at hs
      rw [List.foldl_cons, List.foldl_cons, decimalValue?_of_isDigit hs.1, Option.getD_some,
        ih hs.2]
  rw [digitsValue, hfold _ fun c => isDigit_of_mem_natDigits]
  exact ChatFlow.digitsValue_natDigits n

/-- So many digits spell a number below the power of ten. -/
theorem digitsValue_lt (s : List Char) : digitsValue s < 10 ^ s.length := by
  have hfold (s : List Char) (i : Nat) :
      s.foldl (fun n c => n * 10 + (decimalValue? c).getD 0) i < (i + 1) * 10 ^ s.length := by
    induction s generalizing i with
    | nil => simp
    | cons c s ih =>
      have hdigit : (decimalValue? c).getD 0 ≤ 9 := by
        rcases hc : decimalValue? c with _ | d
        · exact Nat.zero_le 9
        · exact decimalValue?_le hc
      rw [List.foldl_cons, List.length_cons, Nat.pow_succ', ← Nat.mul_assoc]
      refine lt_of_lt_of_le (ih _) (Nat.mul_le_mul_right _ ?_)
      omega
  have hvalue := hfold s 0
  rwa [Nat.zero_add, Nat.one_mul] at hvalue

end Numeral

/-- Text without blanks is not trimmed. -/
theorem trimChars_of_nonblank (h : ∀ c ∈ s, isBlank c = false) : trimChars s = s := by
  have hfront (s : List Char) (h : ∀ c ∈ s, isBlank c = false) : s.dropWhile isBlank = s := by
    cases s with
    | nil => rfl
    | cons c s => rw [List.dropWhile_cons, h c List.mem_cons_self, if_neg Bool.false_ne_true]
  rw [trimChars, hfront s h, hfront s.reverse fun c hc => h c (List.mem_reverse.mp hc),
    List.reverse_reverse]

end

/-! ## Texts that stand for numbers -/

namespace Numeral

/-- Text behind a minus or none. -/
def behindMinus (negative : Bool) (s : List Char) : List Char := if negative then '-' :: s else s

/-- **Text of an integer**: decimal digits of any script, behind a minus or none. -/
structure IntegerText where
  /-- whether there is a minus -/
  negative : Bool
  /-- the digits -/
  digits : List Char
  /-- there are some -/
  some : digits ≠ []
  /-- and all of them are decimal -/
  decimal : ∀ c ∈ digits, isDecimal c = true

/-- **Text of a decimal**: digits on both sides of a point, behind a minus or none. -/
structure DecimalText where
  /-- whether there is a minus -/
  negative : Bool
  /-- the digits before the point -/
  whole : List Char
  /-- the digits behind it -/
  places : List Char
  /-- there are some before it -/
  some : whole ≠ []
  /-- and some behind it -/
  more : places ≠ []
  /-- and all of them are decimal -/
  decimal : ∀ c ∈ whole ++ places, isDecimal c = true

/-- The text. -/
def DecimalText.text (x : DecimalText) : String :=
  String.ofList (behindMinus x.negative (x.whole ++ '.' :: x.places))

namespace IntegerText

/-- The text. -/
def text (x : IntegerText) : String := String.ofList (behindMinus x.negative x.digits)

/-- **The integer that it spells.** -/
def value (x : IntegerText) : Int := Double.signed x.negative (digitsValue x.digits)

/-- **The decimal text of an integer.** -/
def ofInt (n : Int) : IntegerText where
  negative := decide (n < 0)
  digits := natDigits n.natAbs
  some := natDigits_ne_nil _
  decimal _ hc := isDecimal_of_isDigit (isDigit_of_mem_natDigits hc)

theorem text_ofInt (n : Int) : (ofInt n).text = intText n := by
  simp only [text, behindMinus, ofInt, decide_eq_true_eq, intText]
  split <;> rfl

theorem value_ofInt (n : Int) : (ofInt n).value = n := by
  rw [value, ofInt, digitsValue_natDigits]
  simp only [Double.signed, decide_eq_true_eq]
  omega

theorem sign_text (x : IntegerText) : sign x.text.toList = (x.negative, x.digits) := by
  rw [text, String.toList_ofList, behindMinus]
  cases x.negative with
  | true => rfl
  | false => exact (Number.head_digits x.some x.decimal).2

theorem natAbs_value (x : IntegerText) : x.value.natAbs = digitsValue x.digits := by
  rw [value, Double.signed]
  split <;> simp

theorem natAbs_value_lt (x : IntegerText) {k : Nat} (h : x.digits.length ≤ k) :
    x.value.natAbs < Nat.pow 10 k := by
  rw [x.natAbs_value]
  exact lt_of_lt_of_le (digitsValue_lt _) (Nat.pow_le_pow_right (by decide) h)

end IntegerText

end Numeral

/-- **Different integers have different texts.** -/
theorem intText_injective : Function.Injective intText := by
  intro n m h
  have hsign (k : Int) := Numeral.IntegerText.sign_text (.ofInt k)
  have hsame := hsign n
  rw [Numeral.IntegerText.text_ofInt, h, ← Numeral.IntegerText.text_ofInt, hsign m] at hsame
  obtain ⟨hnegative, hdigits⟩ := Prod.mk.inj hsame
  rw [← Numeral.IntegerText.value_ofInt n, ← Numeral.IntegerText.value_ofInt m,
    Numeral.IntegerText.value, Numeral.IntegerText.value, hnegative, hdigits]

theorem intText_ne_empty (n : Int) : intText n ≠ "" := by
  intro h
  have hsign := Numeral.IntegerText.sign_text (.ofInt n)
  rw [Numeral.IntegerText.text_ofInt, h] at hsign
  exact natDigits_ne_nil _ (Prod.mk.inj hsign).2.symm

/-- Integers of 53 bits lie well within the digit limit. -/
theorem length_natDigits_le_limit {k : Nat} (h : k < 2 ^ 53) :
    (natDigits k).length ≤ Number.digitLimit := by
  have hlength : (natDigits k).length ≤ 16 :=
    (length_natDigits_le (by decide)).mpr (lt_trans h (by decide))
  exact hlength.trans (by decide)

/-! ## Reading -/

namespace Number

theorem isBlank_intText (n : Int) : ∀ c ∈ (intText n).toList, isBlank c = false := by
  have hdigits : ∀ c ∈ natDigits n.natAbs, isBlank c = false :=
    fun c hc => isBlank_of_figure (isDigit_of_mem_natDigits hc)
  rw [intText]
  split <;> rw [String.toList_ofList]
  · exact List.forall_mem_cons.mpr ⟨by decide, hdigits⟩
  · exact hdigits

theorem signed?_intText {n : Int} (h : n.natAbs < 2 ^ 53) :
    Numeral.signed? (intText n).toList = some (.int n, []) := by
  have hread := signed?_of_sign (Numeral.IntegerText.ofInt n).some
    (Numeral.IntegerText.ofInt n).decimal (Numeral.IntegerText.sign_text _) (by
      rwa [← Numeral.IntegerText.natAbs_value, Numeral.IntegerText.value_ofInt])
  rw [Numeral.IntegerText.text_ofInt] at hread
  rw [hread]
  exact congrArg (fun i => Option.some (Number.int i, [])) (Numeral.IntegerText.value_ofInt n)

/-- **The decimal text of an integer is read as the integer**, up to 53 bits. -/
theorem ofText_intText {n : Int} (h : n.natAbs < 2 ^ 53) : ofText (intText n) = .int n := by
  have hread := signed?_intText h
  have hsome : (intText n).toList ≠ [] := by
    intro hnil
    rw [hnil] at hread
    cases hread
  unfold ofText
  rw [trimChars_of_nonblank (isBlank_intText n)]
  simp [hsome, hread]

/-- So it is at the head of a text. -/
theorem leading?_intText {n : Int} (h : n.natAbs < 2 ^ 53) :
    leading? (intText n) = some (.int n) := by
  have hblank : (intText n).toList.dropWhile isBlank = (intText n).toList :=
    List.dropWhile_eq_self_iff.mpr fun hlength =>
      Bool.eq_false_iff.mp (isBlank_intText n _ (List.getElem_mem hlength))
  rw [leading?, hblank, signed?_intText h]
  rfl

end Number

/-! ## Stored text -/

namespace Value

open Numeral (IntegerText DecimalText behindMinus)

/-- Any text stands behind a minus or none, and no second one can be told from the first. -/
theorem exists_behindMinus (s : String) : ∃ negative rest,
    s = String.ofList (behindMinus negative rest) ∧
      (negative = false → rest.head? ≠ some '-') := by
  by_cases h : s.toList.head? = some '-'
  · obtain ⟨rest, hrest⟩ := List.head?_eq_some_iff.mp h
    exact ⟨true, rest, by rw [← String.ofList_toList (s := s), hrest]; rfl, nofun⟩
  · exact ⟨false, s.toList, String.ofList_toList.symm, fun _ => h⟩

/-- Stored text by what stands behind its minus. -/
theorem ofLiteral_eq {negative : Bool} {rest : List Char}
    (hhead : negative = false → rest.head? ≠ some '-') :
    ofLiteral (String.ofList (behindMinus negative rest)) =
      if (rest.takeWhile isDecimal).isEmpty then
        .ok (ofLiteral.literalWord (String.ofList (behindMinus negative rest)))
      else match rest.dropWhile isDecimal with
        | [] => (Numeral.integer negative (rest.takeWhile isDecimal)).map Value.int
        | '.' :: places =>
          if !places.isEmpty && places.all isDecimal then
            .ok (.double (Double.ofDecimal negative
              (Numeral.digitsValue (rest.takeWhile isDecimal ++ places)) (-places.length)))
          else .ok (.text (String.ofList (behindMinus negative rest)))
        | _ => .ok (.text (String.ofList (behindMinus negative rest))) := by
  unfold ofLiteral
  rw [String.toList_ofList]
  cases negative with
  | true => rfl
  | false =>
    rw [behindMinus, if_neg Bool.false_ne_true]
    split
    next _ _ hminus =>
      split at hminus
      · exact absurd rfl (hhead rfl)
      · cases hminus
        rfl

/-- **Text of an integer is stored as the integer**, as far as it can be read. -/
theorem ofLiteral_integer (x : IntegerText) (h : x.digits.length ≤ Number.digitLimit) :
    ofLiteral x.text = .ok (.int x.value) := by
  have hhead : x.negative = false → x.digits.head? ≠ some '-' := by
    intro _ hhead
    exact absurd (x.decimal _ (List.mem_of_mem_head? hhead)) (by decide)
  have htake : x.digits.takeWhile isDecimal = x.digits := List.takeWhile_eq_self_iff.mpr x.decimal
  have hdrop : x.digits.dropWhile isDecimal = [] := List.dropWhile_eq_nil_iff.mpr x.decimal
  rw [IntegerText.text, ofLiteral_eq hhead, htake, hdrop, if_neg (by simpa using x.some),
    Numeral.integer, if_neg (Nat.not_lt.mpr h)]
  rfl

/-- So is the decimal text of an integer. -/
theorem ofLiteral_intText {n : Int} (h : n.natAbs < 2 ^ 53) : ofLiteral (intText n) = .ok (.int n) := by
  rw [← IntegerText.text_ofInt, ofLiteral_integer _ (length_natDigits_le_limit h),
    IntegerText.value_ofInt]

/-- **An integer has its decimal text**, as far as it can be written. -/
theorem toText_integer (x : IntegerText) (h : x.digits.length ≤ Number.digitLimit) :
    (int x.value).toText = .ok (intText x.value) := by
  rw [int, toText, numberText, Number.intText?, if_pos (x.natAbs_value_lt h)]

theorem toText_int {n : Int} (h : n.natAbs < 2 ^ 53) : (int n).toText = .ok (intText n) := by
  have htext := toText_integer (.ofInt n) (length_natDigits_le_limit h)
  rwa [IntegerText.value_ofInt] at htext

/-- A word has its own text. -/
theorem toText_literalWord (s : String) : (ofLiteral.literalWord s).toText = .ok s := by
  unfold ofLiteral.literalWord
  split
  · next h => exact congrArg Except.ok h.symm
  · split
    · next h => exact congrArg Except.ok h.symm
    · rfl

theorem literalWord_ne_null (s : String) : ofLiteral.literalWord s ≠ .null := by
  unfold ofLiteral.literalWord
  split
  · exact nofun
  · split <;> exact nofun

/-- **Text of no number is stored as a value of that text.** -/
theorem exists_ofLiteral_other {s : String} (hinteger : ∀ x : IntegerText, s ≠ x.text)
    (hdecimal : ∀ x : DecimalText, s ≠ x.text) :
    ∃ v, ofLiteral s = .ok v ∧ v ≠ .null ∧ v.toText = .ok s := by
  obtain ⟨negative, rest, rfl, hhead⟩ := exists_behindMinus s
  rw [ofLiteral_eq hhead]
  have hsplit : rest.takeWhile isDecimal ++ rest.dropWhile isDecimal = rest :=
    List.takeWhile_append_dropWhile
  have hwhole : ∀ c ∈ rest.takeWhile isDecimal, isDecimal c = true := fun c hc =>
    List.mem_takeWhile_imp hc
  split
  · exact ⟨_, rfl, literalWord_ne_null _, toText_literalWord _⟩
  next hsome =>
    rw [List.isEmpty_iff] at hsome
    split
    · next hrest =>
      -- digits to the end
      rw [hrest, List.append_nil] at hsplit
      refine absurd ?_ (hinteger ⟨negative, rest.takeWhile isDecimal, hsome, hwhole⟩)
      exact congrArg (fun s => String.ofList (behindMinus negative s)) hsplit.symm
    · next places hrest =>
      split
      · next hplaces =>
        -- digits to the end on both sides of a point
        simp only [Bool.and_eq_true, Bool.not_eq_true', List.isEmpty_eq_false_iff,
          List.all_eq_true] at hplaces
        refine absurd ?_ (hdecimal ⟨negative, rest.takeWhile isDecimal, places, hsome, hplaces.1,
          fun c hc => (List.mem_append.mp hc).elim (hwhole c) (hplaces.2 c)⟩)
        rw [DecimalText.text, ← hrest, hsplit]
      · exact ⟨_, rfl, nofun, rfl⟩
    · exact ⟨_, rfl, nofun, rfl⟩

/-- **How text that is stored comes back**: that of an integer as its decimal text, and any other, but
for that of a decimal, as it was. -/
inductive ComesBack (s : String) : String → Prop where
  /-- an integer -/
  | integer (x : IntegerText) (h : s = x.text) (hlimit : x.digits.length ≤ Number.digitLimit) :
    ComesBack s (intText x.value)
  /-- anything else -/
  | verbatim (hinteger : ∀ x : IntegerText, s ≠ x.text) (hdecimal : ∀ x : DecimalText, s ≠ x.text) :
    ComesBack s s

/-- **What is stored for it has that text.** -/
theorem ComesBack.exists_ofLiteral {s t : String} (h : ComesBack s t) :
    ∃ v, ofLiteral s = .ok v ∧ v ≠ .null ∧ v.toText = .ok t := by
  cases h with
  | integer x h hlimit =>
    exact ⟨.int x.value, h ▸ ofLiteral_integer x hlimit, nofun, toText_integer x hlimit⟩
  | verbatim hinteger hdecimal => exact exists_ofLiteral_other hinteger hdecimal

end Value

end ChatFlow
