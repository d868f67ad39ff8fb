import ChatFlow.Json.Reader
import ChatFlow.Proofs.Number.Digits
import ChatFlow.Proofs.Number.Shortest

/-!
# Reading written numbers

* `number_natDigits` — the digits of a natural;
* `number_double` — a number by its parts: digits before the point, places behind it, an exponent;
* `number_positional`, `number_scientific` — the two layouts of a decimal;
* `number_finiteText` — **the text of a double is read as the double**;
* `value_digit`, `value_minus` — where the reader of values finds a number.
-/

namespace ChatFlow.Json

/-! ## Digits -/

theorem isAsciiDigit_eq (c : Char) : isAsciiDigit c = c.isDigit := by
  simp [isAsciiDigit, Char.isDigit, Char.le_def, UInt32.le_iff_toNat_le]

/-- Nothing but digits. -/
def Digits (s : List Char) : Prop := ∀ c ∈ s, isAsciiDigit c = true

theorem digits_natDigits (n : Nat) : Digits (natDigits n) := by
  intro c hc
  rw [isAsciiDigit_eq]
  exact isDigit_of_mem_natDigits hc

theorem digits_zeros (n : Nat) : Digits (Double.zeros n) := by
  intro c hc
  rw [(List.mem_replicate.mp hc).2]
  rfl

theorem Digits.append {s t : List Char} (hs : Digits s) (ht : Digits t) : Digits (s ++ t) := by
  intro c hc
  rcases List.mem_append.mp hc with hc | hc
  · exact hs c hc
  · exact ht c hc

/-- Digits behind others shift their value. -/
theorem digitsValue_append (s t : List Char) :
    digitsValue (s ++ t) = digitsValue s * 10 ^ t.length + digitsValue t := by
  have hfold (n : Nat) : t.foldl (fun n c => n * 10 + (c.toNat - 48)) n =
      n * 10 ^ t.length + digitsValue t := by
    induction t generalizing n with
    | nil => simp [digitsValue]
    | cons c t ih =>
      rw [digitsValue, List.foldl_cons, List.foldl_cons, ih, ih (0 * 10 + _), List.length_cons]
      ring
  rw [digitsValue, List.foldl_append, hfold]
  rfl

theorem digitsValue_zeros (n : Nat) : digitsValue (Double.zeros n) = 0 := by
  induction n with
  | zero => rfl
  | succ n ih =>
    rw [Double.zeros, List.replicate_succ, ← List.singleton_append, digitsValue_append,
      ← Double.zeros, ih]
    simp [digitsValue]

/-! ## What stands behind a number -/

/-- What ends a run of digits. -/
def Stops (rest : List Char) : Prop := ∀ c ∈ rest.head?, isAsciiDigit c = false

/-- **What may follow an integer**: nothing that would go on with it. -/
def Closes (rest : List Char) : Prop :=
  ∀ c ∈ rest.head?, isAsciiDigit c = false ∧ c ≠ '.' ∧ c ≠ 'e' ∧ c ≠ 'E'

theorem stops_cons {c : Char} (h : isAsciiDigit c = false) (rest : List Char) :
    Stops (c :: rest) := by
  intro d hd
  obtain rfl : c = d := by simpa using hd
  exact h

section

variable {digits rest : List Char}

theorem Closes.stops (h : Closes rest) : Stops rest := fun c hc => (h c hc).1

theorem Stops.takeWhile (h : Stops rest) (hdigits : Digits digits) :
    (digits ++ rest).takeWhile isAsciiDigit = digits := by
  rw [List.takeWhile_append_of_pos hdigits]
  cases rest with
  | nil => simp
  | cons c rest => simp [h c rfl]

theorem Stops.dropWhile (h : Stops rest) (hdigits : Digits digits) :
    (digits ++ rest).dropWhile isAsciiDigit = rest := by
  rw [List.dropWhile_append_of_pos hdigits]
  cases rest with
  | nil => rfl
  | cons c rest => simp [h c rfl]

theorem fraction_cons {c : Char} (h : c ≠ '.') (rest : List Char) :
    fraction (c :: rest) = ([], c :: rest) := by simp [Json.fraction, h]

theorem Closes.fraction (h : Closes rest) : fraction rest = ([], rest) := by
  cases rest with
  | nil => rfl
  | cons c rest => exact fraction_cons (h c rfl).2.1 rest

theorem Closes.exponent (h : Closes rest) : exponent rest = (none, rest) := by
  cases rest with
  | nil => rfl
  | cons c rest =>
    have hletter := (h c rfl).2.2
    simp [Json.exponent, hletter]

/-- Places are read up to their end. -/
theorem fraction_point (hne : digits ≠ []) (hdigits : Digits digits) (hrest : Stops rest) :
    fraction ('.' :: (digits ++ rest)) = (digits, rest) := by
  rw [fraction, hrest.takeWhile hdigits, hrest.dropWhile hdigits, if_neg (by simpa using hne)]

/-- So is an exponent, with its sign. -/
theorem exponent_mark (negative : Bool) (hne : digits ≠ []) (hdigits : Digits digits)
    (hrest : Stops rest) :
    exponent ('e' :: (if negative then '-' else '+') :: (digits ++ rest)) =
      (some (if negative then -(digitsValue digits : Int) else digitsValue digits), rest) := by
  have hempty : digits.isEmpty = false := by simpa using hne
  cases negative <;>
    simp [Json.exponent, hrest.takeWhile hdigits, hrest.dropWhile hdigits, hempty]

end

/-! ## Numbers by their parts -/

/-- **The digits before the point**: some, without a zero in front, except a zero alone. -/
structure Whole (whole : List Char) : Prop where
  /-- some -/
  some : whole ≠ []
  /-- digits -/
  digits : Digits whole
  /-- no zero in front of others -/
  front : whole.head? = .some '0' → whole = ['0']

theorem whole_zero : Whole ['0'] := ⟨nofun, digits_zeros 1, fun _ => rfl⟩

/-- Digits in front of which there is no zero. -/
theorem whole_append {d : Nat} (hd : d ≠ 0) {digits : List Char} (hdigits : Digits digits) :
    Whole (natDigits d ++ digits) where
  some := List.append_ne_nil_of_left_ne_nil (natDigits_ne_nil d) digits
  digits := (digits_natDigits d).append hdigits
  front h := by
    obtain ⟨c, s, hcons⟩ := List.exists_cons_of_ne_nil (natDigits_ne_nil d)
    have hhead := head_natDigits hd
    rw [hcons] at h hhead
    exact absurd h hhead

/-- The leading digits of a natural. -/
theorem whole_take {d : Nat} (hd : d ≠ 0) {n : Nat} (hn : 0 < n) :
    Whole ((natDigits d).take n) := by
  obtain ⟨c, s, hcons⟩ := List.exists_cons_of_ne_nil (natDigits_ne_nil d)
  obtain ⟨n, rfl⟩ := Nat.exists_eq_add_one_of_ne_zero hn.ne'
  refine ⟨by simp [hcons], fun c hc => digits_natDigits d c (List.mem_of_mem_take hc), fun h => ?_⟩
  have hhead := head_natDigits hd
  rw [hcons] at h hhead
  exact absurd h hhead

section

variable (negative : Bool) {whole places s t rest : List Char} {power : Option Int}

theorem Whole.run (h : Whole whole) (hs : Stops s) : wholePart (whole ++ s) = whole := by
  obtain ⟨c, digits, rfl⟩ := List.exists_cons_of_ne_nil h.some
  by_cases hc : c = '0'
  · subst hc
    exact (h.front rfl).symm
  · have hrun := hs.takeWhile h.digits
    rw [List.cons_append] at hrun ⊢
    simp [wholePart, hc, hrun]

/-- **A number by its parts.** -/
theorem number_double (hwhole : Whole whole) (hs : Stops s) (hfraction : fraction s = (places, t))
    (hexponent : exponent t = (power, rest)) (hpart : (places.isEmpty && power.isNone) = false) :
    number negative (whole ++ s) = .ok (.double (Double.ofDecimal negative
      (digitsValue (whole ++ places)) (power.getD 0 - places.length)), rest) := by
  have hempty : whole.isEmpty = false := by simpa using hwhole.some
  unfold number
  rw [hwhole.run hs]
  simp only [hempty, List.drop_left, hfraction, hexponent, hpart, if_false, Bool.false_eq_true]

/-- **The digits of a natural within the limit are read as it.** -/
theorem number_natDigits {n : Nat} (hlimit : (natDigits n).length ≤ Number.digitLimit)
    (h : Closes rest) :
    number negative (natDigits n ++ rest) = .ok (.int (if negative then -n else n), rest) := by
  have hwhole : Whole (natDigits n) := by
    rcases eq_or_ne n 0 with rfl | hpos
    · exact whole_zero
    · rw [← List.append_nil (natDigits n)]
      exact whole_append hpos nofun
  have hempty : (natDigits n).isEmpty = false := by simpa using hwhole.some
  unfold number
  rw [hwhole.run h.stops]
  simp [hempty, h.fraction, h.exponent, not_lt.mpr hlimit, digitsValue_natDigits]

/-! ## Decimals -/

variable {d : Nat} {p : Int}

/-- **Positional digits** are read as the decimal they lay out. -/
theorem number_positional (hd : d ≠ 0) (hrest : Closes rest) : ∃ n q,
    number negative (Double.positional (natDigits d) p ++ rest) =
      .ok (.double (Double.ofDecimal negative n q), rest) ∧ (n * 10 ^ q : ℚ) = d * 10 ^ p := by
  -- the layout is digits, a point, and places
  have hparts (whole places : List Char) (hwhole : Whole whole) (hne : places ≠ [])
      (hplaces : Digits places)
      (hlayout : Double.positional (natDigits d) p = whole ++ '.' :: places)
      (hvalue : (digitsValue (whole ++ places) * 10 ^ (-(places.length : Int)) : ℚ) = d * 10 ^ p) :
      ∃ n q, number negative (Double.positional (natDigits d) p ++ rest) =
        .ok (.double (Double.ofDecimal negative n q), rest) ∧ (n * 10 ^ q : ℚ) = d * 10 ^ p := by
    refine ⟨_, _, ?_, hvalue⟩
    have hread := number_double negative hwhole
      (stops_cons rfl (places ++ rest)) (fraction_point hne hplaces hrest.stops) hrest.exponent
      (by simpa using hne)
    rw [hlayout, List.append_assoc, List.cons_append, hread]
    simp
  unfold Double.positional at hparts ⊢
  by_cases hp : 0 ≤ p
  · obtain ⟨k, rfl⟩ := Int.eq_ofNat_of_zero_le hp
    refine hparts (natDigits d ++ Double.zeros k) ['0'] (whole_append hd (digits_zeros k))
      (List.cons_ne_nil _ _) (digits_zeros 1) (by simp) ?_
    rw [digitsValue_append, digitsValue_append, digitsValue_natDigits, digitsValue_zeros]
    simp [Double.zeros, digitsValue]
  · obtain ⟨k, hk⟩ := Int.eq_ofNat_of_zero_le (by omega : 0 ≤ -p)
    obtain rfl : p = -(k : Int) := by omega
    have hpos : 0 < k := by omega
    simp only [if_neg hp, neg_neg, Int.toNat_natCast] at hparts ⊢
    by_cases hlong : k < (natDigits d).length
    · rw [if_pos hlong] at hparts ⊢
      have hlength : ((natDigits d).drop ((natDigits d).length - k)).length = k := by
        rw [List.length_drop]
        omega
      refine hparts _ _ (whole_take hd (by omega)) ?_
        (fun c hc => digits_natDigits d c (List.mem_of_mem_drop hc)) rfl ?_
      · rw [← List.length_pos_iff, hlength]
        exact hpos
      · rw [List.take_append_drop, digitsValue_natDigits, hlength]
    · rw [if_neg hlong] at hparts ⊢
      have hlength : (Double.zeros (k - (natDigits d).length) ++ natDigits d).length = k := by
        rw [List.length_append, Double.zeros, List.length_replicate]
        omega
      refine hparts ['0'] (Double.zeros (k - (natDigits d).length) ++ natDigits d) whole_zero ?_
        ((digits_zeros _).append (digits_natDigits d)) rfl ?_
      · exact List.append_ne_nil_of_right_ne_nil _ (natDigits_ne_nil d)
      · rw [digitsValue_append, digitsValue_append, digitsValue_zeros, digitsValue_natDigits,
          hlength]
        simp [digitsValue]

/-- The figures of an exponent are at least two. -/
theorem exists_figures (n : Nat) : ∃ figures : List Char,
    (if (natDigits n).length < 2 then '0' :: natDigits n else natDigits n) = figures ∧
      figures ≠ [] ∧ Digits figures ∧ digitsValue figures = n := by
  refine ⟨_, rfl, ?_⟩
  split
  · refine ⟨List.cons_ne_nil _ _, ?_, ?_⟩
    · exact (digits_zeros 1).append (digits_natDigits n)
    · rw [← List.singleton_append, digitsValue_append, digitsValue_natDigits]
      simp [digitsValue]
  · exact ⟨natDigits_ne_nil n, digits_natDigits n, digitsValue_natDigits n⟩

/-- **Digits with an exponent** are read as the decimal they lay out. -/
theorem number_scientific (hd : d ≠ 0) (hrest : Closes rest) : ∃ n q,
    number negative (Double.scientific (natDigits d) (p + (natDigits d).length - 1) ++ rest) =
      .ok (.double (Double.ofDecimal negative n q), rest) ∧ (n * 10 ^ q : ℚ) = d * 10 ^ p := by
  obtain ⟨x, hx⟩ : ∃ x, x = p + (natDigits d).length - 1 := ⟨_, rfl⟩
  obtain ⟨figures, hfigures, hne, hdigits, hvalue⟩ := exists_figures x.natAbs
  have hexponent := exponent_mark (decide (x < 0)) hne hdigits hrest.stops
  have hpower : (if decide (x < 0) = true then -(digitsValue figures : Int)
      else digitsValue figures) = x := by
    simp only [hvalue, decide_eq_true_eq]
    split <;> omega
  rw [hpower] at hexponent
  have hsign : (if decide (x < 0) = true then '-' else '+') = if x < 0 then '-' else '+' := by
    simp only [decide_eq_true_eq]
  rw [hsign] at hexponent
  rw [← hx]
  unfold Double.scientific
  simp only [hfigures]
  obtain ⟨c, s, hcons⟩ := List.exists_cons_of_ne_nil (natDigits_ne_nil d)
  have hall := digits_natDigits d
  have hwhole : Whole [c] := by
    have h := whole_take hd one_pos
    rwa [hcons] at h
  have hlength : (natDigits d).length = s.length + 1 := by rw [hcons, List.length_cons]
  have hspelled : digitsValue (c :: s) = d := by rw [← hcons, digitsValue_natDigits]
  rw [hcons] at hall
  rw [hcons]
  have hq : x - s.length = p := by omega
  refine ⟨d, p, ?_, rfl⟩
  cases s with
  | nil =>
    have hread := number_double negative hwhole
      (stops_cons rfl _) (fraction_cons (by decide) _) hexponent rfl
    rw [List.append_nil, hspelled, Option.getD_some, hq] at hread
    simpa using hread
  | cons c' s =>
    have hread := number_double negative hwhole (stops_cons rfl _)
      (fraction_point (List.cons_ne_nil c' s) (fun d hd => hall d (List.mem_cons_of_mem _ hd))
        (stops_cons rfl _)) hexponent rfl
    rw [show [c] ++ c' :: s = c :: c' :: s from rfl, hspelled, Option.getD_some, hq] at hread
    simpa using hread

end

/-! ## Doubles -/

/-- A number begins with a digit. -/
theorem head_of_number {negative : Bool} {s : List Char} {r : Value × List Char}
    (h : number negative s = .ok r) : ∃ c t, s = c :: t ∧ c.isDigit = true := by
  cases s with
  | nil => cases h
  | cons c t =>
    refine ⟨c, t, rfl, ?_⟩
    by_contra hdigit
    have hne : c ≠ '0' := by
      rintro rfl
      exact hdigit rfl
    simp [number, wholePart, hne, isAsciiDigit_eq, hdigit] at h

/-- **The text of a finite double is read as the double**, past its sign. -/
theorem number_finiteText {negative : Bool} {m : Nat} {e : Int}
    (hcanonical : (Double.finite negative m e).Canonical) : ∃ body,
      Double.finiteText negative m e = (if negative then '-' :: body else body) ∧
        ∀ rest, Closes rest →
          number negative (body ++ rest) = .ok (.double (.finite negative m e), rest) := by
  refine ⟨_, rfl, fun rest hrest => ?_⟩
  rcases Nat.eq_zero_or_pos m with rfl | hm
  · -- a zero has the smallest exponent
    obtain rfl : e = Double.minExponent := by
      refine le_antisymm (not_lt.mp fun hlarge => ?_) hcanonical.2.1
      exact absurd (hcanonical.2.2.2 hlarge) (by decide)
    have hread := number_double negative whole_zero (stops_cons rfl (['0'] ++ rest))
      (fraction_point (List.cons_ne_nil _ _) (digits_zeros 1) hrest.stops) hrest.exponent rfl
    rw [if_pos rfl]
    exact hread
  · have hrounds := Double.rounds_shortest hcanonical hm
    have hd : (Double.shortest m e).1 ≠ 0 := hrounds.ne_zero hm
    rw [if_neg hm.ne']
    dsimp only
    split
    · obtain ⟨n, q, hread, hvalue⟩ :=
        number_positional negative (p := (Double.shortest m e).2) hd hrest
      rw [hread, Double.ofDecimal_of_rounds hcanonical hm (hvalue ▸ hrounds)]
    · obtain ⟨n, q, hread, hvalue⟩ :=
        number_scientific negative (p := (Double.shortest m e).2) hd hrest
      rw [hread, Double.ofDecimal_of_rounds hcanonical hm (hvalue ▸ hrounds)]

/-! ## Values that are numbers -/

section

variable {fuel : Nat} {c : Char} {t : List Char}

/-- **A value that begins with a digit is a number.** -/
theorem value_digit (h : c.isDigit = true) :
    value (fuel + 1) (c :: t) = number false (c :: t) := by
  have hne (d : Char) (hd : d.isDigit = false) : c ≠ d := by
    rintro rfl
    exact absurd h (by rw [hd]; exact Bool.false_ne_true)
  simp [value, hne '"' rfl, hne '[' rfl, hne '\x7b' rfl, hne '-' rfl, isAsciiDigit_eq, h]

/-- So is one that begins with a minus and a digit. -/
theorem value_minus (h : c.isDigit = true) :
    value (fuel + 1) ('-' :: c :: t) = number true (c :: t) := by
  simp [value, isAsciiDigit_eq, h]

end

end ChatFlow.Json
