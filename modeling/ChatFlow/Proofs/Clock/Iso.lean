import ChatFlow.Clock.Iso
import ChatFlow.Proofs.Clock.Timestamp
import ChatFlow.Proofs.Number.Digits
import ChatFlow.Proofs.Text.Utf8

/-!
# Reading written moments

The written form of a moment is a row of padded numerals with one byte between each two of them. It
is read numeral by numeral.

* `Iso.digits?_numeral` — a padded numeral is read as its number;
* `Iso.date?_numerals`, `Iso.zoned?_clockBytes` — so are the date and the time of day;
* `Moment.ofIso?_isoText` — **a valid moment is read from its text as it was**, without an offset.
-/

namespace ChatFlow

namespace Moment

variable {width n : Nat}

theorem length_padded (hwidth : 0 < width) (h : n < 10 ^ width) :
    (padded width n).length = width := by
  have := (length_natDigits_le hwidth).mpr h
  simp [padded]
  omega

theorem isDigit_of_mem_padded {c : Char} (h : c ∈ padded width n) : c.isDigit = true := by
  simp only [padded, List.mem_append, List.mem_replicate] at h
  rcases h with ⟨-, rfl⟩ | h
  · rfl
  · exact isDigit_of_mem_natDigits h

/-- Zeros in front do not count. -/
theorem digitsValue_padded (width n : Nat) : Json.digitsValue (padded width n) = n := by
  have hzeros (k : Nat) :
      (List.replicate k '0').foldl (fun n c => n * 10 + (c.toNat - 48)) 0 = 0 := by
    induction k with
    | zero => rfl
    | succ k ih => exact ih
  rw [Json.digitsValue, padded, List.foldl_append, hzeros]
  exact digitsValue_natDigits n

end Moment

namespace Iso

/-! ## Bytes of digits -/

/-- A digit is one byte. -/
theorem encodeChar_digit {c : Char} (h : c.isDigit = true) :
    ∃ b, Utf8.encodeChar c = [b] ∧ isDigitByte b = true ∧ b.toNat = c.toNat := by
  have hrange : 48 ≤ c.toNat ∧ c.toNat ≤ 57 := by
    simpa [Char.isDigit, UInt32.le_iff_toNat_le] using h
  have hbyte := Utf8.toNat_byte (n := c.toNat) (by omega)
  refine ⟨c.toNat.toUInt8, ?_, ?_, hbyte⟩
  · unfold Utf8.encodeChar
    simp only
    rw [if_pos (by omega)]
  · simpa only [isDigitByte, UInt8.le_iff_toNat_le, hbyte, UInt8.reduceToNat, Bool.and_eq_true,
      decide_eq_true_eq] using hrange

/-- A run of digits has a byte for each, which is a digit. -/
theorem encode_digits {s : List Char} (h : ∀ c ∈ s, c.isDigit = true) :
    (Utf8.encode s).length = s.length ∧ ∀ b ∈ Utf8.encode s, isDigitByte b = true := by
  induction s with
  | nil => exact ⟨rfl, nofun⟩
  | cons c s ih =>
    obtain ⟨b, hb, hdigit, -⟩ := encodeChar_digit (h c List.mem_cons_self)
    obtain ⟨hlength, hall⟩ := ih fun d hd => h d (List.mem_cons_of_mem c hd)
    rw [Utf8.encode_cons, hb, List.singleton_append, List.length_cons, hlength]
    exact ⟨rfl, List.forall_mem_cons.mpr ⟨hdigit, hall⟩⟩

/-- **A run of digits is read as the number it spells.** -/
theorem digits?_encode {s : List Char} (h : ∀ c ∈ s, c.isDigit = true) (n : Nat)
    (rest : List UInt8) : digits? s.length n (Utf8.encode s ++ rest) =
      some (s.foldl (fun n c => n * 10 + (c.toNat - 48)) n, rest) := by
  induction s generalizing n with
  | nil => rfl
  | cons c s ih =>
    obtain ⟨b, hb, hdigit, hvalue⟩ := encodeChar_digit (h c List.mem_cons_self)
    rw [Utf8.encode_cons, hb, List.length_cons, List.singleton_append, List.cons_append, digits?,
      if_pos hdigit, hvalue]
    exact ih (fun d hd => h d (List.mem_cons_of_mem c hd)) _

/-- The bytes of a padded numeral. -/
def numeral (width n : Nat) : List UInt8 := Utf8.encode (Moment.padded width n)

section

variable {width n : Nat}

theorem isDigitByte_of_mem_numeral {b : UInt8} (h : b ∈ numeral width n) : isDigitByte b = true :=
  (encode_digits fun _ => Moment.isDigit_of_mem_padded).2 b h

variable (hwidth : 0 < width) (h : n < 10 ^ width)

include hwidth h

theorem length_numeral : (numeral width n).length = width := by
  rw [numeral, (encode_digits fun _ => Moment.isDigit_of_mem_padded).1,
    Moment.length_padded hwidth h]

/-- **A padded numeral is read as its number.** -/
theorem digits?_numeral (rest : List UInt8) :
    digits? width 0 (numeral width n ++ rest) = some (n, rest) := by
  have hread := digits?_encode (s := Moment.padded width n)
    (fun _ => Moment.isDigit_of_mem_padded) 0 rest
  rw [Moment.length_padded hwidth h] at hread
  rw [numeral, hread]
  congr 2
  exact Moment.digitsValue_padded width n

/-- So it is at the end of the text. -/
theorem digits?_numeral_end : digits? width 0 (numeral width n) = some (n, []) := by
  have hread := digits?_numeral hwidth h []
  rwa [List.append_nil] at hread

/-- A padded numeral begins with a digit. -/
theorem byteAt_numeral (rest : List UInt8) :
    isDigitByte (byteAt (numeral width n ++ rest) 0) = true := by
  have hlength := length_numeral hwidth h
  rcases hbytes : numeral width n with _ | ⟨b, s⟩
  · rw [hbytes] at hlength
    exact absurd hlength hwidth.ne
  · have hmem : b ∈ numeral width n := by rw [hbytes]; exact List.mem_cons_self
    exact isDigitByte_of_mem_numeral hmem

end

theorem byteAt_zero (b : UInt8) (s : List UInt8) : byteAt (b :: s) 0 = b := rfl

theorem byteAt_append (s t : List UInt8) (i : Nat) :
    byteAt (s ++ t) (s.length + i) = byteAt t i := by
  simp [byteAt, List.getElem?_append_right]

/-! ## The date -/

/-- The bytes of a date and what follows it. -/
def dateBytes (year month day : Nat) (rest : List UInt8) : List UInt8 :=
  numeral 4 year ++ 45 :: (numeral 2 month ++ 45 :: (numeral 2 day ++ rest))

section

variable {year month day : Nat} (hyear : year < 10 ^ 4) (hmonth : month < 10 ^ 2)
  (hday : day < 10 ^ 2)

include hyear hmonth hday

theorem length_dateBytes (rest : List UInt8) :
    (dateBytes year month day rest).length = rest.length + 10 := by
  simp only [dateBytes, List.length_append, List.length_cons, length_numeral four_pos hyear,
    length_numeral two_pos hmonth, length_numeral two_pos hday]
  omega

/-- **A date is read.** -/
theorem date?_dateBytes (rest : List UInt8) :
    date? 10 (dateBytes year month day rest) = some (year, month, day) := by
  have hmark (t : List UInt8) : byteAt (numeral 2 month ++ t) 0 ≠ 87 := by
    intro heq
    have hdigit := byteAt_numeral two_pos hmonth t
    rw [heq] at hdigit
    exact absurd hdigit (by decide)
  have hlength := length_dateBytes hyear hmonth hday rest
  unfold date?
  rw [hlength, dateBytes]
  simp [digits?_numeral four_pos hyear, digits?_numeral two_pos hmonth,
    digits?_numeral two_pos hday, byteAt_zero, hmark]

/-- What follows a date stands ten bytes on. -/
theorem behind_dateBytes (b : UInt8) (rest : List UInt8) :
    byteAt (dateBytes year month day (b :: rest)) 10 = b ∧
      (dateBytes year month day (b :: rest)).drop 11 = rest := by
  have hsplit :
      dateBytes year month day (b :: rest) = dateBytes year month day [] ++ b :: rest := by
    simp [dateBytes]
  have hlength : (dateBytes year month day []).length = 10 :=
    length_dateBytes hyear hmonth hday []
  have hat := byteAt_append (dateBytes year month day []) (b :: rest) 0
  have hdrop : (dateBytes year month day [] ++ b :: rest).drop
      ((dateBytes year month day []).length + 1) = rest := List.drop_length_add_append 1
  rw [hlength] at hat hdrop
  rw [hsplit]
  exact ⟨hat, hdrop⟩

/-- The date takes up ten bytes, by the dash after the year. -/
theorem separatorAt_dateBytes (rest : List UInt8) :
    separatorAt (dateBytes year month day rest) = some 10 := by
  have hlength := length_dateBytes hyear hmonth hday rest
  have hat (i : Nat) : byteAt (dateBytes year month day rest) (4 + i) =
      byteAt (45 :: (numeral 2 month ++ 45 :: (numeral 2 day ++ rest))) i := by
    have happend := byteAt_append (numeral 4 year)
      (45 :: (numeral 2 month ++ 45 :: (numeral 2 day ++ rest))) i
    rwa [length_numeral four_pos hyear] at happend
  have hdash : byteAt (dateBytes year month day rest) 4 = 45 := hat 0
  have hmark : byteAt (dateBytes year month day rest) 5 ≠ 87 := by
    rw [hat 1]
    intro heq
    have hdigit := byteAt_numeral two_pos hmonth (45 :: (numeral 2 day ++ rest))
    rw [show byteAt (numeral 2 month ++ _) 0 = 87 from heq] at hdigit
    exact absurd hdigit (by decide)
  unfold separatorAt
  simp only [hlength, hdash, hmark]
  simp

end

/-! ## The time of day -/

/-- The bytes of the places behind the seconds. -/
def placeBytes (micro : Nat) : List UInt8 := if micro = 0 then [] else 46 :: numeral 6 micro

/-- The bytes of a time of day. -/
def clockBytes (hour minute second micro : Nat) : List UInt8 :=
  numeral 2 hour ++ 58 :: (numeral 2 minute ++ 58 :: (numeral 2 second ++ placeBytes micro))

/-- The bytes of a time of day are digits, colons and points. -/
theorem mem_clockBytes {hour minute second micro : Nat} {b : UInt8}
    (h : b ∈ clockBytes hour minute second micro) : isDigitByte b = true ∨ b = 58 ∨ b = 46 := by
  simp only [clockBytes, placeBytes, List.mem_append, List.mem_cons] at h
  rcases h with h | h | h | h | h | h
  · exact .inl (isDigitByte_of_mem_numeral h)
  · exact .inr (.inl h)
  · exact .inl (isDigitByte_of_mem_numeral h)
  · exact .inr (.inl h)
  · exact .inl (isDigitByte_of_mem_numeral h)
  · split at h
    · exact absurd h List.not_mem_nil
    · rcases List.mem_cons.mp h with h | h
      · exact .inr (.inr h)
      · exact .inl (isDigitByte_of_mem_numeral h)

section

variable {hour minute second micro : Nat} (hhour : hour < 10 ^ 2) (hminute : minute < 10 ^ 2)
  (hsecond : second < 10 ^ 2) (hmicro : micro < 10 ^ 6)

include hhour hminute hsecond hmicro

theorem length_clockBytes :
    (clockBytes hour minute second micro).length = if micro = 0 then 8 else 15 := by
  simp only [clockBytes, placeBytes, List.length_append, List.length_cons,
    length_numeral two_pos hhour, length_numeral two_pos hminute, length_numeral two_pos hsecond]
  split
  · rfl
  · rw [List.length_cons, length_numeral (Nat.succ_pos 5) hmicro]
    rfl

/-- **A time of day is read** field by field. -/
theorem time?_clockBytes :
    time? (clockBytes hour minute second micro).length (clockBytes hour minute second micro) =
      some ⟨[hour, minute, second], micro, true⟩ := by
  rw [length_clockBytes hhour hminute hsecond hmicro, time?, clockBytes, placeBytes]
  split
  · next hzero =>
    simp [fields?, digits?_numeral two_pos hhour, digits?_numeral two_pos hminute,
      digits?_numeral_end two_pos hsecond, byteAt, hzero]
  · simp [fields?, fraction?, digits?_numeral two_pos hhour, digits?_numeral two_pos hminute,
      digits?_numeral two_pos hsecond, digits?_numeral_end (Nat.succ_pos 5) hmicro, byteAt]

/-- **No offset is read** behind a time of day. -/
theorem zoned?_clockBytes : zoned? (clockBytes hour minute second micro) =
    some (⟨[hour, minute, second], micro, true⟩, false) := by
  have htime := time?_clockBytes hhour hminute hsecond hmicro
  have hlength := length_clockBytes hhour hminute hsecond hmicro
  have hmarks : ∀ b ∈ clockBytes hour minute second micro, isDigitByte b = true ∨ b = 58 ∨ b = 46 :=
    fun _ => mem_clockBytes
  rcases hbytes : clockBytes hour minute second micro with _ | ⟨b, s⟩
  · rw [hbytes] at hlength
    split at hlength <;> exact absurd hlength (by decide)
  rw [hbytes] at htime hmarks
  have hall : (b :: s).takeWhile (fun b => !(b = 43 || b = 45 || b = 90 : Bool)) = b :: s := by
    rw [← List.append_nil (b :: s), List.takeWhile_append_of_pos, List.takeWhile_nil]
    intro d hd
    rcases hmarks d hd with hdigit | rfl | rfl
    · have hno (mark : UInt8) (hmark : isDigitByte mark = false) : d ≠ mark := by
        rintro rfl
        exact absurd hdigit (by rw [hmark]; decide)
      simp [hno 43 rfl, hno 45 rfl, hno 90 rfl]
    · rfl
    · rfl
  unfold zoned?
  simp only [hall, htime]
  simp

end

end Iso

/-! ## Moments -/

namespace Moment

theorem encode_isoText (m : Moment) : Utf8.encode m.isoText.toList =
    Iso.dateBytes m.year m.month m.day
      (84 :: Iso.clockBytes m.hour m.minute m.second m.micro) := by
  have hplaces : Utf8.encode (if m.micro = 0 then [] else '.' :: padded 6 m.micro) =
      Iso.placeBytes m.micro := by
    unfold Iso.placeBytes
    split
    · rfl
    · rfl
  simp only [isoText, dateChars, timeChars, String.toList_ofList, Utf8.encode_append,
    Utf8.encode_cons, hplaces, List.append_assoc]
  rfl

/-- **A valid moment is read from its text as it was**, without an offset. -/
theorem ofIso?_isoText {m : Moment} (h : m.isValid = true) :
    ofIso? m.isoText = some (m, false) := by
  obtain ⟨hyear, hmonth, hday, hhour, hminute, hsecond, hmicro⟩ := (isValid_iff m).mp h
  have hdays := daysIn_le m.year m.month
  have hy : m.year < 10 ^ 4 := by omega
  have hm : m.month < 10 ^ 2 := by omega
  have hd : m.day < 10 ^ 2 := by omega
  have hh : m.hour < 10 ^ 2 := by omega
  have hmin : m.minute < 10 ^ 2 := by omega
  have hs : m.second < 10 ^ 2 := by omega
  have hlength (rest : List UInt8) := Iso.length_dateBytes hy hm hd rest
  have hbehind (b : UInt8) (rest : List UInt8) := Iso.behind_dateBytes hy hm hd b rest
  unfold ofIso?
  rw [encode_isoText]
  simp [Iso.separatorAt_dateBytes hy hm hd, Iso.date?_dateBytes hy hm hd, hlength, hbehind,
    Iso.charLength, Iso.zoned?_clockBytes hh hmin hs hmicro, Iso.Clock.field, h]

end Moment

end ChatFlow
