import ChatFlow.Json.Reader
import Mathlib.Algebra.Group.Nat.Defs
import Mathlib.Data.Nat.Basic

/-!
# Decimal digits

The digits of a natural are ASCII digits, at least one, and read back as the natural.
-/

namespace ChatFlow

theorem natDigits_ne_nil (n : Nat) : natDigits n ≠ [] := Nat.toDigits_ne_nil

theorem isDigit_of_mem_natDigits {n : Nat} {c : Char} (h : c ∈ natDigits n) : c.isDigit = true :=
  Nat.isDigit_of_mem_toDigits (by decide) (by decide) h

theorem length_natDigits_le {n width : Nat} (hwidth : 0 < width) :
    (natDigits n).length ≤ width ↔ n < 10 ^ width :=
  Nat.length_toDigits_le_iff (by decide) hwidth

/-- Only zero is written with a zero in front. -/
theorem head_natDigits {n : Nat} (h : n ≠ 0) : (natDigits n).head? ≠ some '0' := by
  induction n using Nat.strongRecOn with
  | ind n ih =>
    rcases Nat.lt_or_ge n 10 with hsmall | hlarge
    · have hone : ∀ k < 10, k ≠ 0 → k.digitChar ≠ '0' := by decide
      rw [natDigits, Nat.toDigits_of_lt_base hsmall]
      simpa using hone n hsmall h
    · have hfront := ih (n / 10) (by omega) (by omega)
      rw [natDigits, Nat.toDigits_of_base_le (by decide) hlarge, ← natDigits, List.head?_append]
      obtain ⟨c, s, hdigits⟩ := List.exists_cons_of_ne_nil (natDigits_ne_nil (n / 10))
      rwa [hdigits] at hfront ⊢

/-- The digits of a natural spell it. -/
theorem digitsValue_natDigits (n : Nat) : Json.digitsValue (natDigits n) = n := by
  have hfold : ∀ (s : List Char) (i : Nat),
      s.foldl (fun n c => n * 10 + (c.toNat - 48)) i = Nat.ofDigitChars 10 s i := by
    intro s
    induction s with
    | nil => intro i; rfl
    | cons c s ih =>
      intro i
      rw [List.foldl_cons, ih, Nat.mul_comm]
      rfl
  rw [Json.digitsValue, hfold]
  exact Nat.ofDigitChars_toDigits (by decide) (by decide)

end ChatFlow
