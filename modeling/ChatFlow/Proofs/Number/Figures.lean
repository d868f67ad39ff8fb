import ChatFlow.Proofs.Number.Digits
import ChatFlow.Schema.Check

/-!
# Figures

The text of a number consists of figures: digits, signs, a point, and the letters of an exponent, of
what is not a number and of what is infinite. So no number is read as a word with any other letter.

* `Double.isFigure_text`, `isFigure_intText` — doubles and integers are written with figures only;
* `Schema.numberText_ne` — **a word with another letter is not the text of a number**.
-/

namespace ChatFlow

/-- Characters that numbers are written with. -/
def isFigure (c : Char) : Bool :=
  c.isDigit || ['-', '+', '.', 'e', 'n', 'a', 'i', 'f'].contains c

theorem isFigure_natDigits {n : Nat} : ∀ c ∈ natDigits n, isFigure c = true := by
  intro c hc
  rw [isFigure, isDigit_of_mem_natDigits hc, Bool.true_or]

theorem isFigure_intText (n : Int) : ∀ c ∈ (intText n).toList, isFigure c = true := by
  intro c hc
  rw [intText] at hc
  split at hc
  · rcases List.mem_cons.mp (by simpa using hc) with rfl | hc
    · decide
    · exact isFigure_natDigits c hc
  · exact isFigure_natDigits c (by simpa using hc)

theorem Double.isFigure_positional {digits : List Char} (h : ∀ c ∈ digits, isFigure c = true)
    (p : Int) : ∀ c ∈ positional digits p, isFigure c = true := by
  have hzeros (n : Nat) : ∀ c ∈ zeros n, isFigure c = true := by
    intro c hc
    obtain rfl := List.eq_of_mem_replicate hc
    decide
  rw [positional]
  split
  · simp only [List.forall_mem_append]
    exact ⟨⟨h, hzeros _⟩, List.all_eq_true.mp (by decide)⟩
  · dsimp only
    split
    · rw [List.forall_mem_append, List.forall_mem_cons]
      exact ⟨fun c hc => h c (List.mem_of_mem_take hc), by decide,
        fun c hc => h c (List.mem_of_mem_drop hc)⟩
    · simp only [List.forall_mem_cons, List.forall_mem_append]
      exact ⟨by decide, by decide, hzeros _, h⟩

/-- The digits before an exponent, with a point behind the first of them. -/
theorem Double.isFigure_mantissa {digits : List Char} (h : ∀ c ∈ digits, isFigure c = true) :
    ∀ c ∈ (match digits with
      | [] => []
      | [d] => [d]
      | d :: rest => d :: '.' :: rest), isFigure c = true := by
  cases digits with
  | nil => exact h
  | cons d rest =>
    cases rest with
    | nil => exact h
    | cons d' rest =>
      rw [List.forall_mem_cons] at h
      exact List.forall_mem_cons.mpr ⟨h.1, List.forall_mem_cons.mpr ⟨by decide, h.2⟩⟩

theorem Double.isFigure_scientific {digits : List Char} (h : ∀ c ∈ digits, isFigure c = true)
    (exponent : Int) : ∀ c ∈ scientific digits exponent, isFigure c = true := by
  have hsign : isFigure (if exponent < 0 then '-' else '+') = true := by
    split <;> decide
  have hfigures : ∀ c ∈ (if (natDigits exponent.natAbs).length < 2 then
      '0' :: natDigits exponent.natAbs else natDigits exponent.natAbs), isFigure c = true := by
    split
    · exact List.forall_mem_cons.mpr ⟨by decide, isFigure_natDigits⟩
    · exact isFigure_natDigits
  unfold scientific
  dsimp only
  rw [List.forall_mem_append, List.forall_mem_cons, List.forall_mem_cons]
  exact ⟨isFigure_mantissa h, by decide, hsign, hfigures⟩

theorem Double.isFigure_text (x : Double) : ∀ c ∈ x.text.toList, isFigure c = true := by
  cases x with
  | nan => exact List.all_eq_true.mp (by decide)
  | infinity negative =>
    cases negative with
    | false => exact List.all_eq_true.mp (by decide)
    | true => exact List.all_eq_true.mp (by decide)
  | finite negative m e =>
    have hbody : ∀ c ∈ finiteText false m e, isFigure c = true := by
      simp only [finiteText, Bool.false_eq_true, if_false]
      split_ifs
      · exact List.all_eq_true.mp (by decide)
      · exact isFigure_positional isFigure_natDigits _
      · exact isFigure_scientific isFigure_natDigits _
    cases negative with
    | false => simpa [text] using hbody
    | true =>
      have hminus : finiteText true m e = '-' :: finiteText false m e := rfl
      rw [text, String.toList_ofList, hminus]
      exact List.forall_mem_cons.mpr ⟨by decide, hbody⟩

/-- **Numbers are written with figures only.** -/
theorem Schema.isFigure_numberText (n : Number) :
    ∀ c ∈ (numberText n).toList, isFigure c = true := by
  cases n with
  | int n => exact isFigure_intText n
  | double x => exact x.isFigure_text

/-- A word with a letter that is no figure is not the text of a number. -/
theorem Schema.numberText_ne (n : Number) {word : String}
    (h : (word.toList.all isFigure) = false) : numberText n ≠ word := by
  rintro rfl
  have hall : (numberText n).toList.all isFigure = true :=
    List.all_eq_true.mpr (isFigure_numberText n)
  rw [hall] at h
  cases h

end ChatFlow
