import ChatFlow.Text.Utf8
import Mathlib.Data.Nat.Basic

/-!
# Decoding encoded text

The bytes of a character are a leading byte, which tells how many follow, and bytes that carry six
bits each. The reader is taken through them by their numbers.

* `pieces_encodeChar` — the bytes of a character are read as that character;
* `decode?_encode` — **encoded text is decoded to the text it was**;
* `toNat_lt_of_mem_encode`, `nul_mem_of_mem_encode` — of the bytes, few are great, and only a zero is
  encoded as one.
-/

namespace ChatFlow.Utf8

/-! ## Kinds of bytes by their numbers -/

theorem toNat_byte {n : Nat} (h : n < 256) : n.toUInt8.toNat = n := by
  simp [Nat.toUInt8, h]

theorem tailLength?_eq (b : UInt8) : tailLength? b =
    if b.toNat < 128 then some 0
    else if 194 ≤ b.toNat ∧ b.toNat ≤ 223 then some 1
    else if 224 ≤ b.toNat ∧ b.toNat ≤ 239 then some 2
    else if 240 ≤ b.toNat ∧ b.toNat ≤ 244 then some 3
    else none := by
  simp [tailLength?, UInt8.lt_iff_toNat_lt, UInt8.le_iff_toNat_le]

theorem isTail_iff (b : UInt8) : isTail b = true ↔ 128 ≤ b.toNat ∧ b.toNat ≤ 191 := by
  simp [isTail, UInt8.le_iff_toNat_le]

/-- **Which bytes may come second**, by the leading byte. -/
theorem secondOk_iff (lead b : UInt8) : secondOk lead b = true ↔
    (128 ≤ b.toNat ∧ b.toNat ≤ 191) ∧ (lead.toNat = 224 → 160 ≤ b.toNat) ∧
      (lead.toNat = 237 → b.toNat ≤ 159) ∧ (lead.toNat = 240 → 144 ≤ b.toNat) ∧
        (lead.toNat = 244 → b.toNat ≤ 143) := by
  have hlead (n : Nat) (h : n < 256) : lead = n.toUInt8 ↔ lead.toNat = n := by
    rw [← UInt8.toNat_inj, toNat_byte h]
  have h₁ : lead = 0xE0 ↔ lead.toNat = 224 := hlead 224 (by decide)
  have h₂ : lead = 0xED ↔ lead.toNat = 237 := hlead 237 (by decide)
  have h₃ : lead = 0xF0 ↔ lead.toNat = 240 := hlead 240 (by decide)
  have h₄ : lead = 0xF4 ↔ lead.toNat = 244 := hlead 244 (by decide)
  unfold secondOk
  simp only [h₁, h₂, h₃, h₄]
  split_ifs <;>
    simp only [isTail_iff, Bool.and_eq_true, decide_eq_true_eq, UInt8.le_iff_toNat_le,
      UInt8.reduceToNat] <;> omega

/-! ## One character -/

section

variable {n : Nat} {lead b c d : UInt8}

theorem head_one (h : n < 0x80) (hlead : lead.toNat = n) (rest : List UInt8) :
    head lead rest = (some (Char.ofNat n), 1) := by
  have hkind : tailLength? lead = some 0 := by rw [tailLength?_eq, hlead, if_pos h]
  simp [head, hkind, hlead]

theorem head_two (hlow : 0x80 ≤ n) (hhigh : n < 0x800) (hlead : lead.toNat = 192 + n / 64)
    (hb : b.toNat = 128 + n % 64) (rest : List UInt8) :
    head lead (b :: rest) = (some (Char.ofNat n), 2) := by
  have hkind : tailLength? lead = some 1 := by
    rw [tailLength?_eq, hlead, if_neg (by omega), if_pos (by omega)]
  have hok : secondOk lead b = true := by
    rw [secondOk_iff, hlead, hb]
    omega
  have hvalue : lead.toNat % 32 * 64 + b.toNat % 64 = n := by omega
  simp [head, hkind, hok, hvalue]

theorem head_three (hlow : 0x800 ≤ n) (hhigh : n < 0x10000) (hgap : n < 0xD800 ∨ 0xDFFF < n)
    (hlead : lead.toNat = 224 + n / 4096) (hb : b.toNat = 128 + n / 64 % 64)
    (hc : c.toNat = 128 + n % 64) (rest : List UInt8) :
    head lead (b :: c :: rest) = (some (Char.ofNat n), 3) := by
  have hkind : tailLength? lead = some 2 := by
    rw [tailLength?_eq, hlead, if_neg (by omega), if_neg (by omega), if_pos (by omega)]
  have hok : secondOk lead b = true := by
    rw [secondOk_iff, hlead, hb]
    omega
  have htail : isTail c = true := by
    rw [isTail_iff, hc]
    omega
  have hvalue : lead.toNat % 16 * 4096 + b.toNat % 64 * 64 + c.toNat % 64 = n := by omega
  simp [head, hkind, hok, htail, hvalue]

theorem head_four (hlow : 0x10000 ≤ n) (hhigh : n < 0x110000)
    (hlead : lead.toNat = 240 + n / 262144) (hb : b.toNat = 128 + n / 4096 % 64)
    (hc : c.toNat = 128 + n / 64 % 64) (hd : d.toNat = 128 + n % 64) (rest : List UInt8) :
    head lead (b :: c :: d :: rest) = (some (Char.ofNat n), 4) := by
  have hkind : tailLength? lead = some 3 := by
    rw [tailLength?_eq, hlead, if_neg (by omega), if_neg (by omega), if_neg (by omega),
      if_pos (by omega)]
  have hok : secondOk lead b = true := by
    rw [secondOk_iff, hlead, hb]
    omega
  have htail : isTail c = true ∧ isTail d = true := by
    rw [isTail_iff, isTail_iff, hc, hd]
    omega
  have hvalue : lead.toNat % 8 * 262144 + b.toNat % 64 * 4096 + c.toNat % 64 * 64 + d.toNat % 64 =
      n := by omega
  simp [head, hkind, hok, htail, hvalue]

end

/-- **The bytes of a character are read as that character.** -/
theorem pieces_encodeChar (c : Char) (rest : List UInt8) :
    pieces (encodeChar c ++ rest) 0 = some c :: pieces rest 0 := by
  have hvalid : c.toNat < 0xD800 ∨ 0xDFFF < c.toNat ∧ c.toNat < 0x110000 := c.valid
  have hchar : Char.ofNat c.toNat = c := Char.ofNat_toNat c
  have hpow : Nat.pow 64 0 = 1 ∧ Nat.pow 64 1 = 64 ∧ Nat.pow 64 2 = 4096 := by decide
  unfold encodeChar
  simp only [hpow, Nat.div_one]
  split_ifs with h₁ h₂ h₃ <;> simp only [List.cons_append, List.nil_append, pieces]
  · rw [head_one h₁ (toNat_byte (by omega)), hchar]
    rfl
  · rw [head_two (by omega) h₂ (toNat_byte (by omega)) (toNat_byte (by omega)), hchar]
    rfl
  · rw [head_three (by omega) h₃ (by omega) (toNat_byte (by omega)) (toNat_byte (by omega))
      (toNat_byte (by omega)), hchar]
    rfl
  · rw [head_four (by omega) (by omega) (toNat_byte (by omega)) (toNat_byte (by omega))
      (toNat_byte (by omega)) (toNat_byte (by omega)), hchar]
    rfl

/-! ## Text -/

theorem encode_cons (c : Char) (s : List Char) : encode (c :: s) = encodeChar c ++ encode s :=
  List.flatMap_cons

theorem encode_append (s t : List Char) : encode (s ++ t) = encode s ++ encode t :=
  List.flatMap_append

theorem pieces_encode (s : List Char) : pieces (encode s) 0 = s.map some := by
  induction s with
  | nil => rfl
  | cons c s ih => rw [encode_cons, pieces_encodeChar, ih, List.map_cons]

/-- **Encoded text is decoded to the text it was.** -/
theorem decode?_encode (s : List Char) : decode? (encode s) = some s := by
  rw [decode?, pieces_encode, List.mapM_map]
  have hpure := List.mapM_pure (m := Option) (l := s) (f := id)
  rwa [List.map_id] at hpure

/-- **The bytes of a character** are below 248, and none is zero but that of zero. -/
theorem toNat_of_mem_encodeChar {c : Char} {b : UInt8} (hb : b ∈ encodeChar c) :
    b.toNat < 248 ∧ (b.toNat = 0 → c.toNat = 0) := by
  have hvalid : c.toNat < 0xD800 ∨ 0xDFFF < c.toNat ∧ c.toNat < 0x110000 := c.valid
  have hbyte (n : Nat) (h : n < 248) (hn : n = 0 → c.toNat = 0) (hbn : b = n.toUInt8) :
      b.toNat < 248 ∧ (b.toNat = 0 → c.toNat = 0) := by
    have hvalue : b.toNat = n := hbn ▸ toNat_byte (by omega)
    omega
  have hpow : Nat.pow 64 0 = 1 ∧ Nat.pow 64 1 = 64 ∧ Nat.pow 64 2 = 4096 := by decide
  unfold encodeChar at hb
  simp only [hpow, Nat.div_one] at hb
  split_ifs at hb with h₁ h₂ h₃ <;> simp only [List.mem_cons, List.not_mem_nil, or_false] at hb
  · exact hbyte _ (by omega) id hb
  · rcases hb with hb | hb <;> exact hbyte _ (by omega) (by omega) hb
  · rcases hb with hb | hb | hb <;> exact hbyte _ (by omega) (by omega) hb
  · rcases hb with hb | hb | hb | hb <;> exact hbyte _ (by omega) (by omega) hb

theorem toNat_lt_of_mem_encode {s : List Char} {b : UInt8} (hb : b ∈ encode s) : b.toNat < 248 := by
  obtain ⟨c, -, hb⟩ := List.mem_flatMap.mp hb
  exact (toNat_of_mem_encodeChar hb).1

theorem nul_mem_of_mem_encode {s : List Char} (hb : (0 : UInt8) ∈ encode s) : '\x00' ∈ s := by
  obtain ⟨c, hc, hb⟩ := List.mem_flatMap.mp hb
  have hzero : c.toNat = 0 := (toNat_of_mem_encodeChar hb).2 rfl
  have hchar : c = '\x00' := by rw [← Char.ofNat_toNat c, hzero]
  exact hchar ▸ hc

end ChatFlow.Utf8
