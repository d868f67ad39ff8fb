import ChatFlow.Proofs.Number.Literals

/-!
# How numbers are spelled

A number in authored text is a word for infinity or a decimal: a sign or none, digits with a point or
none, and an exponent or none. One reader takes a text as a whole, another takes what stands at its
head.

* `Numeral.Spelling` — **what spells a number**, and the number that it spells;
* `Numeral.signed?_chars`, `Numeral.exists_spelling` — what is read at the head of a text is a spelling,
  and `Numeral.exists_signed?_le` — **no longer one stands there**;
* `Number.ofText_of_chars`, `Number.ofText_isNaN_iff` — the texts that spell a number as a whole;
* `Number.readers_agree` — **the two readers agree** on such texts, and on any other text the second
  reads the longest piece at its head that the first would read.
-/

namespace ChatFlow

/-! ## Characters -/

/-- No decimal digit is a blank: the tables have no code in common. -/
theorem isBlank_of_isDecimal {c : Char} (h : isDecimal c = true) : isBlank c = false := by
  have hdisjoint : ∀ z ∈ CharTable.decimalZeros, ∀ b ∈ CharTable.blank, z + 9 < b.1 ∨ b.2 < z := by
    decide
  obtain ⟨z, hz, hlow, hhigh⟩ : ∃ z ∈ CharTable.decimalZeros, z ≤ c.toNat ∧ c.toNat ≤ z + 9 := by
    rw [isDecimal, decimalValue?] at h
    split at h
    · split at h
      · next hrange =>
        obtain ⟨hlow, hhigh⟩ := Bool.and_eq_true_iff.mp hrange
        exact ⟨48, List.mem_cons_self, of_decide_eq_true hlow, of_decide_eq_true hhigh⟩
      · cases h
    · rw [Option.isSome_map, List.find?_isSome] at h
      simpa using h
  rw [isBlank, inRanges, List.any_eq_false]
  intro b hb hblank
  simp only [Bool.and_eq_true, decide_eq_true_eq] at hblank
  rcases hdisjoint z hz b hb with hlt | hlt <;> omega

namespace Numeral

/-! ## Spellings -/

/-- **A sign in front of a numeral**, or none. -/
inductive Sign where
  /-- none -/
  | none
  /-- a plus -/
  | plus
  /-- a minus -/
  | minus

/-- The character of a sign. -/
def Sign.chars : Sign → List Char
  | none => []
  | plus => ['+']
  | minus => ['-']

/-- Whether it is a minus. -/
def Sign.isMinus : Sign → Bool
  | minus => true
  | _ => false

/-- **Digits with a point or none**, on one side of it at least. -/
structure Mantissa where
  /-- the digits before the point -/
  whole : List Char
  /-- the digits behind it, if there is a point -/
  places : Option (List Char)
  /-- there are some -/
  some : whole ++ places.getD [] ≠ []
  /-- and all of them are decimal -/
  decimal : ∀ c ∈ whole ++ places.getD [], isDecimal c = true

/-- The characters of a mantissa. -/
def Mantissa.chars (m : Mantissa) : List Char :=
  m.whole ++ m.places.elim [] ('.' :: ·)

/-- **An exponent**: its mark, a sign or none, and digits. -/
structure Exponent where
  /-- the mark -/
  mark : Char
  /-- in either case -/
  marks : mark = 'e' ∨ mark = 'E'
  /-- the sign -/
  sign : Sign
  /-- the digits -/
  digits : List Char
  /-- there are some -/
  some : digits ≠ []
  /-- and all of them are decimal -/
  decimal : ∀ c ∈ digits, isDecimal c = true

/-- The characters of an exponent. -/
def Exponent.chars (x : Exponent) : List Char := x.mark :: (x.sign.chars ++ x.digits)

/-- The power of ten that it stands for. -/
def Exponent.power (x : Exponent) : Int := Double.signed x.sign.isMinus (digitsValue x.digits)

/-- **What spells a number.** -/
inductive Spelling where
  /-- the word for infinity -/
  | unbounded (sign : Sign)
  /-- a decimal -/
  | decimal (sign : Sign) (mantissa : Mantissa) (exponent : Option Exponent)

namespace Spelling

/-- Its characters. -/
def chars : Spelling → List Char
  | unbounded sign => sign.chars ++ infinityWord
  | decimal sign m x => sign.chars ++ (m.chars ++ x.elim [] Exponent.chars)

/-- **The number that it spells**: whole doubles of 53 bits are integers. -/
def value : Spelling → Number
  | unbounded sign => if sign.isMinus then Number.negInfinity else Number.infinity
  | decimal sign m x =>
    Number.narrow (.double (Double.ofDecimal sign.isMinus (digitsValue (m.whole ++ m.places.getD []))
      (x.elim 0 Exponent.power - (m.places.getD []).length)))

end Spelling

end Numeral

/-! ## Their numbers -/

namespace Double

variable (negative : Bool)

theorem isNaN_settle (m : Nat) (e : Int) : (settle negative m e).isNaN = false := by
  simp only [settle]
  generalize (ite (m = Nat.pow 2 53) (Nat.pow 2 52, e + 1) (m, e)) = carried
  split <;> rfl

theorem isNaN_ofRatio (num den : Nat) : (ofRatio negative num den).isNaN = false := by
  rw [ofRatio]
  split
  · rfl
  · exact isNaN_settle _ _ _

/-- **The double of a decimal is a number.** -/
theorem isNaN_ofDecimal (m : Nat) (e : Int) : (ofDecimal negative m e).isNaN = false := by
  rw [ofDecimal]
  split_ifs
  · rfl
  · rfl
  · rfl
  · exact isNaN_ofRatio _ _ _
  · exact isNaN_ofRatio _ _ _

end Double

namespace Number

/-- Narrowing makes no number of what is none, and the other way round. -/
theorem isNaN_narrow (n : Number) : n.narrow.isNaN = n.isNaN := by
  rcases n with k | _ | _ | ⟨negative, m, e⟩
  · rfl
  · rfl
  · rfl
  · dsimp only [narrow, Double.truncate?]
    generalize Double.signed negative (ite (0 ≤ e) _ _) = whole
    split <;> rfl

end Number

/-- **What is spelled is a number.** -/
theorem Numeral.Spelling.isNaN_value (w : Spelling) : w.value.isNaN = false := by
  cases w with
  | unbounded sign => cases sign <;> rfl
  | decimal sign m x =>
    rw [value, Number.isNaN_narrow]
    exact Double.isNaN_ofDecimal _ _ _

namespace Numeral

/-! ## Reading the parts

Each part is read off the head of a text as far as it goes on. -/

/-- No digit is a sign or begins the word for infinity. -/
theorem ne_of_isDecimal {c : Char} (h : isDecimal c = true) : c ≠ '-' ∧ c ≠ '+' ∧ c ≠ 'I' := by
  refine ⟨?_, ?_, ?_⟩ <;> (rintro rfl; exact absurd h (by decide))

section

variable {s t : List Char}

/-- Digits end where the text does not go on with one. -/
theorem span_digits (h : ∀ c ∈ s, isDecimal c = true) (ht : ∀ c ∈ t.head?, isDecimal c = false) :
    (s ++ t).takeWhile isDecimal = s ∧ (s ++ t).dropWhile isDecimal = t := by
  rw [List.takeWhile_append_of_pos h, List.dropWhile_append_of_pos h]
  cases t with
  | nil => simp
  | cons c t =>
    have hc := ht c rfl
    simp [hc]

theorem mem_takeWhile_isDecimal : ∀ c ∈ s.takeWhile isDecimal, isDecimal c = true :=
  fun _ hc => List.mem_takeWhile_imp hc

/-! ### Signs -/

theorem sign_chars (sign : Sign) (h : ∀ c ∈ s.head?, c ≠ '-' ∧ c ≠ '+') :
    Numeral.sign (sign.chars ++ s) = (sign.isMinus, s) := by
  cases sign with
  | none =>
    change Numeral.sign s = _
    unfold Numeral.sign
    split
    · exact absurd rfl (h '-' rfl).1
    · exact absurd rfl (h '+' rfl).2
    · rfl
  | plus => rfl
  | minus => rfl

theorem exists_sign (s : List Char) :
    ∃ sign : Sign, s = sign.chars ++ (Numeral.sign s).2 ∧ (Numeral.sign s).1 = sign.isMinus := by
  unfold Numeral.sign
  split
  · exact ⟨.minus, rfl, rfl⟩
  · exact ⟨.plus, rfl, rfl⟩
  · exact ⟨.none, rfl, rfl⟩

/-! ### Exponents -/

/-- Where no mark stands there is no exponent. -/
theorem exponent_of_head (h : ∀ c ∈ s.head?, c ≠ 'e' ∧ c ≠ 'E') : exponent s = (0, s) := by
  cases s with
  | nil => rfl
  | cons c s =>
    obtain ⟨he, hE⟩ := h c rfl
    simp [exponent, he, hE]

/-- An exponent is read to the last digit behind it. -/
theorem exponent_chars_append (x : Exponent) (t : List Char) : exponent (x.chars ++ t) =
    (Double.signed x.sign.isMinus (digitsValue (x.digits ++ t.takeWhile isDecimal)),
      t.dropWhile isDecimal) := by
  have hmark : (x.mark = 'e' || x.mark = 'E') = true := by simpa using x.marks
  have hhead : ∀ c ∈ (x.digits ++ t).head?, c ≠ '-' ∧ c ≠ '+' := by
    intro c hc
    rw [List.head?_append_of_ne_nil _ x.some] at hc
    have hdigit := ne_of_isDecimal (x.decimal c (List.mem_of_mem_head? hc))
    exact ⟨hdigit.1, hdigit.2.1⟩
  have hsome : (x.digits ++ t.takeWhile isDecimal).isEmpty = false := by simp [x.some]
  rw [Exponent.chars, List.cons_append, List.append_assoc, exponent]
  simp only [hmark, if_true, sign_chars x.sign hhead, List.takeWhile_append_of_pos x.decimal,
    List.dropWhile_append_of_pos x.decimal, hsome, Bool.false_eq_true, if_false]
  rfl

/-- No mantissa goes on in an exponent. -/
theorem Exponent.head_chars (x : Exponent) (t : List Char) :
    ∀ c ∈ (x.chars ++ t).head?, isDecimal c = false ∧ c ≠ '.' := by
  rintro c ⟨⟩
  rcases x.marks with hmark | hmark <;> rw [hmark] <;> decide

theorem exponent_chars (x : Exponent) (ht : ∀ c ∈ t.head?, isDecimal c = false) :
    exponent (x.chars ++ t) = (x.power, t) := by
  obtain ⟨htake, hdrop⟩ := span_digits (s := []) nofun ht
  rw [List.nil_append] at htake hdrop
  rw [exponent_chars_append, htake, hdrop, List.append_nil]
  rfl

/-- **What is read as an exponent is one**, or it is given back. -/
theorem exists_exponent (s : List Char) : ∃ x : Option Exponent,
    s = x.elim [] Exponent.chars ++ (exponent s).2 ∧ (exponent s).1 = x.elim 0 Exponent.power := by
  unfold exponent
  split
  · next c rest =>
    split
    · next hmark =>
      obtain ⟨sign, hrest, hminus⟩ := exists_sign rest
      dsimp only
      split
      · exact ⟨none, rfl, rfl⟩
      · next hsome =>
        refine ⟨some ⟨c, by simpa using hmark, sign, (Numeral.sign rest).2.takeWhile isDecimal,
          by simpa using hsome, mem_takeWhile_isDecimal⟩, ?_, ?_⟩
        · simp only [Option.elim_some, Exponent.chars, List.cons_append, List.append_assoc,
            List.takeWhile_append_dropWhile]
          rw [← hrest]
        · simp only [Option.elim_some, Exponent.power, Double.signed, hminus]
    · exact ⟨none, rfl, rfl⟩
  · exact ⟨none, rfl, rfl⟩

theorem length_exponent_le (s : List Char) : (exponent s).2.length ≤ s.length := by
  obtain ⟨x, hs, -⟩ := exists_exponent s
  have hlength := congrArg List.length hs
  rw [List.length_append] at hlength
  omega

/-! ### Mantissas -/

section

variable {whole places : List Char} (hwhole : ∀ c ∈ whole, isDecimal c = true)

include hwhole

/-- Digits without a point are read to the last one behind them, and a point there as well. -/
theorem mantissa?_digits (hne : whole ≠ []) (t : List Char) : mantissa? (whole ++ t) =
    match t.dropWhile isDecimal with
    | '.' :: behind => some (whole ++ t.takeWhile isDecimal, behind.takeWhile isDecimal,
        behind.dropWhile isDecimal)
    | rest => some (whole ++ t.takeWhile isDecimal, [], rest) := by
  have hsome : (whole ++ t.takeWhile isDecimal).isEmpty = false := by simp [hne]
  unfold mantissa?
  rw [List.takeWhile_append_of_pos hwhole, List.dropWhile_append_of_pos hwhole]
  generalize t.dropWhile isDecimal = behind
  split
  · simp only [hsome, Bool.false_and, Bool.false_eq_true, if_false]
  · simp only [hsome, Bool.false_eq_true, if_false]

/-- Digits with a point are read to the last one behind them. -/
theorem mantissa?_point (hplaces : ∀ c ∈ places, isDecimal c = true) (hsome : whole ++ places ≠ [])
    (t : List Char) : mantissa? (whole ++ '.' :: (places ++ t)) =
      some (whole, places ++ t.takeWhile isDecimal, t.dropWhile isDecimal) := by
  obtain ⟨htake, hdrop⟩ := span_digits (t := '.' :: (places ++ t)) hwhole (by simp; decide)
  have hdigits : (whole.isEmpty && (places ++ t.takeWhile isDecimal).isEmpty) = false := by
    rw [Bool.and_eq_false_iff]
    cases whole with
    | nil =>
      have hne : places ≠ [] := hsome
      simp [hne]
    | cons c whole => exact .inl rfl
  unfold mantissa?
  simp only [htake, hdrop, List.takeWhile_append_of_pos hplaces,
    List.dropWhile_append_of_pos hplaces, hdigits, Bool.false_eq_true, if_false]

end

theorem mantissa?_chars (m : Mantissa) (ht : ∀ c ∈ t.head?, isDecimal c = false ∧ c ≠ '.') :
    mantissa? (m.chars ++ t) = some (m.whole, m.places.getD [], t) := by
  obtain ⟨whole, places, hsome, hdecimal⟩ := m
  obtain ⟨hwhole, hplaces⟩ := List.forall_mem_append.mp hdecimal
  obtain ⟨htake, hdrop⟩ := span_digits (s := []) nofun fun c hc => (ht c hc).1
  rw [List.nil_append] at htake hdrop
  cases places with
  | none =>
    rw [Option.getD_none, List.append_nil] at hsome
    rw [Mantissa.chars, Option.elim_none, List.append_nil, mantissa?_digits hwhole hsome, htake, hdrop,
      List.append_nil]
    split
    · exact absurd rfl (ht '.' rfl).2
    · rfl
  | some places =>
    rw [Option.getD_some] at hplaces hsome
    rw [Mantissa.chars, Option.elim_some, List.append_assoc, List.cons_append,
      mantissa?_point hwhole hplaces hsome, htake, hdrop, List.append_nil]
    rfl

/-- **What is read as a mantissa is one.** -/
theorem exists_mantissa {whole places rest : List Char}
    (h : mantissa? s = some (whole, places, rest)) :
    ∃ m : Mantissa, s = m.chars ++ rest ∧ m.whole = whole ∧ m.places.getD [] = places := by
  have hsplit : s.takeWhile isDecimal ++ s.dropWhile isDecimal = s := List.takeWhile_append_dropWhile
  unfold mantissa? at h
  dsimp only at h
  split at h
  · next behind hpoint =>
    split at h
    · cases h
    · next hsome =>
      obtain ⟨rfl, rfl, rfl⟩ := h
      refine ⟨⟨s.takeWhile isDecimal, some (behind.takeWhile isDecimal), ?_, ?_⟩, ?_, rfl, rfl⟩
      · intro hnil
        simp only [Option.getD_some, List.append_eq_nil_iff] at hnil
        simp [hnil] at hsome
      · exact List.forall_mem_append.mpr ⟨mem_takeWhile_isDecimal, mem_takeWhile_isDecimal⟩
      · simp only [Mantissa.chars, Option.elim_some, List.append_assoc, List.cons_append,
          List.takeWhile_append_dropWhile]
        rw [← hpoint, hsplit]
  · split at h
    · cases h
    · next hsome =>
      obtain ⟨rfl, rfl, rfl⟩ := h
      refine ⟨⟨s.takeWhile isDecimal, none, ?_, ?_⟩, ?_, rfl, rfl⟩
      · simpa only [Option.getD_none, List.append_nil, List.isEmpty_iff] using hsome
      · simp only [Option.getD_none, List.append_nil]
        exact mem_takeWhile_isDecimal
      · rw [Mantissa.chars, Option.elim_none, List.append_nil, hsplit]

/-- A mantissa is read to its end at least. -/
theorem exists_mantissa?_le (m : Mantissa) (t : List Char) : ∃ whole places rest,
    mantissa? (m.chars ++ t) = some (whole, places, rest) ∧ rest.length ≤ t.length := by
  obtain ⟨whole, places, hsome, hdecimal⟩ := m
  obtain ⟨hwhole, hplaces⟩ := List.forall_mem_append.mp hdecimal
  have hlength : (t.dropWhile isDecimal).length ≤ t.length := (List.dropWhile_suffix _).length_le
  cases places with
  | none =>
    rw [Option.getD_none, List.append_nil] at hsome
    rw [Mantissa.chars, Option.elim_none, List.append_nil, mantissa?_digits hwhole hsome]
    split
    · -- a point in what follows is taken as well
      next behind hpoint =>
      refine ⟨_, _, _, rfl, ?_⟩
      calc (behind.dropWhile isDecimal).length ≤ behind.length := (List.dropWhile_suffix _).length_le
        _ ≤ (t.dropWhile isDecimal).length := by rw [hpoint]; exact Nat.le_succ _
        _ ≤ t.length := hlength
    · exact ⟨_, _, _, rfl, hlength⟩
  | some places =>
    rw [Option.getD_some] at hplaces hsome
    rw [Mantissa.chars, Option.elim_some, List.append_assoc, List.cons_append,
      mantissa?_point hwhole hplaces hsome]
    exact ⟨_, _, _, rfl, hlength⟩

/-! ### Numbers -/

/-- **Where no numeral goes on**: a text that begins with no digit, point or mark. -/
def Closes (s : List Char) : Prop :=
  ∀ c ∈ s.head?, isDecimal c = false ∧ c ≠ '.' ∧ c ≠ 'e' ∧ c ≠ 'E'

theorem Mantissa.head_chars (m : Mantissa) (t : List Char) :
    ∃ c rest, m.chars ++ t = c :: rest ∧ c ≠ '-' ∧ c ≠ '+' ∧ c ≠ 'I' := by
  obtain ⟨whole, places, hsome, hdecimal⟩ := m
  cases whole with
  | nil =>
    cases places with
    | none => exact absurd rfl hsome
    | some places => exact ⟨'.', places ++ t, rfl, by decide⟩
  | cons c whole =>
    obtain ⟨hminus, hplus, hword⟩ := ne_of_isDecimal (hdecimal c (by simp))
    exact ⟨c, _, rfl, hminus, hplus, hword⟩

/-- A decimal is a mantissa and what is read as an exponent behind it. -/
theorem scan?_eq (negative : Bool) (s : List Char) : scan? negative s =
    (mantissa? s).map fun (whole, places, behind) =>
      (Double.ofDecimal negative (digitsValue (whole ++ places))
        ((exponent behind).1 - places.length), (exponent behind).2) := by
  rw [scan?]
  cases mantissa? s with
  | none => rfl
  | some m => rfl

/-- Behind the sign of a decimal, its mantissa is come to. -/
theorem signed?_mantissa (sign : Sign) (m : Mantissa) (t : List Char) :
    signed? (sign.chars ++ (m.chars ++ t)) =
      (scan? sign.isMinus (m.chars ++ t)).map fun (x, rest) => (Number.narrow (.double x), rest) := by
  obtain ⟨c, rest, hcons, hminus, hplus, hword⟩ := m.head_chars t
  have hsign := sign_chars sign (s := m.chars ++ t) (by rw [hcons]; simp [hminus, hplus])
  have htake : (m.chars ++ t).take 8 ≠ infinityWord := by
    rw [hcons]
    intro heq
    exact hword (List.cons.inj heq).1
  rw [signed?, hsign]
  simp only [if_neg htake]

theorem signed?_word (sign : Sign) (t : List Char) : signed? (sign.chars ++ (infinityWord ++ t)) =
    some (if sign.isMinus then Number.negInfinity else Number.infinity, t) := by
  have hword : infinityWord = 'I' :: "nfinity".toList := by decide
  have hsign : Numeral.sign (sign.chars ++ (infinityWord ++ t)) =
      (sign.isMinus, infinityWord ++ t) := by
    refine sign_chars sign ?_
    rw [hword]
    rintro c ⟨⟩
    decide
  have htake : (infinityWord ++ t).take 8 = infinityWord := List.take_left' (by decide)
  have hdrop : (infinityWord ++ t).drop 8 = t := List.drop_left' (by decide)
  rw [signed?, hsign]
  simp only [htake, hdrop, if_true]

/-- **A spelling is read as its number**, and what follows is left where no numeral goes on. -/
theorem signed?_chars (w : Spelling) (ht : Closes t) : signed? (w.chars ++ t) = some (w.value, t) := by
  cases w with
  | unbounded sign =>
    rw [Spelling.chars, List.append_assoc, signed?_word]
    rfl
  | decimal sign m x =>
    have hscan : scan? sign.isMinus (m.chars ++ (x.elim [] Exponent.chars ++ t)) =
        some (Double.ofDecimal sign.isMinus (digitsValue (m.whole ++ m.places.getD []))
          (x.elim 0 Exponent.power - (m.places.getD []).length), t) := by
      have hhead : ∀ c ∈ (x.elim [] Exponent.chars ++ t).head?, isDecimal c = false ∧ c ≠ '.' := by
        cases x with
        | none => exact fun c hc => ⟨(ht c hc).1, (ht c hc).2.1⟩
        | some x => exact x.head_chars t
      have hexponent : exponent (x.elim [] Exponent.chars ++ t) = (x.elim 0 Exponent.power, t) := by
        cases x with
        | none => exact exponent_of_head fun c hc => (ht c hc).2.2
        | some x => exact exponent_chars x fun c hc => (ht c hc).1
      rw [scan?_eq, mantissa?_chars m hhead]
      simp only [Option.map_some, hexponent]
    rw [Spelling.chars, List.append_assoc, List.append_assoc, signed?_mantissa, hscan]
    rfl

/-- **What is read at the head of a text is a spelling.** -/
theorem exists_spelling {n : Number} {rest : List Char} (h : signed? s = some (n, rest)) :
    ∃ w : Spelling, s = w.chars ++ rest ∧ n = w.value := by
  obtain ⟨sign, hs, hminus⟩ := exists_sign s
  unfold signed? at h
  dsimp only at h
  rw [hminus] at h
  split at h
  · next hword =>
    obtain ⟨rfl, rfl⟩ := Prod.mk.inj (Option.some.inj h)
    refine ⟨.unbounded sign, ?_, rfl⟩
    rw [Spelling.chars, List.append_assoc, ← hword, List.take_append_drop]
    exact hs
  · obtain ⟨⟨x, left⟩, hscan, heq⟩ := Option.map_eq_some_iff.mp h
    obtain ⟨rfl, rfl⟩ := Prod.mk.inj heq
    rw [scan?_eq] at hscan
    obtain ⟨⟨whole, places, behind⟩, hmantissa, hdecimal⟩ := Option.map_eq_some_iff.mp hscan
    obtain ⟨m, hm, rfl, rfl⟩ := exists_mantissa hmantissa
    obtain ⟨power, hpower, hvalue⟩ := exists_exponent behind
    obtain ⟨rfl, rfl⟩ := Prod.mk.inj hdecimal
    refine ⟨.decimal sign m power, ?_, ?_⟩
    · rw [Spelling.chars, List.append_assoc, List.append_assoc, ← hpower, ← hm]
      exact hs
    · rw [Spelling.value, ← hvalue]

/-- **No longer spelling stands there**: one at the head of a text is read to its end at least. -/
theorem exists_signed?_le (w : Spelling) (t : List Char) :
    ∃ n rest, signed? (w.chars ++ t) = some (n, rest) ∧ rest.length ≤ t.length := by
  cases w with
  | unbounded sign =>
    rw [Spelling.chars, List.append_assoc, signed?_word]
    exact ⟨_, _, rfl, le_rfl⟩
  | decimal sign m x =>
    rw [Spelling.chars, List.append_assoc, List.append_assoc, signed?_mantissa, scan?_eq]
    cases x with
    | none =>
      obtain ⟨whole, places, rest, hmantissa, hlength⟩ := exists_mantissa?_le m t
      rw [Option.elim_none, List.nil_append, hmantissa]
      exact ⟨_, _, rfl, (length_exponent_le rest).trans hlength⟩
    | some x =>
      -- its mark ends the mantissa where it ends in the spelling
      rw [Option.elim_some, mantissa?_chars m (x.head_chars t)]
      refine ⟨_, _, rfl, ?_⟩
      rw [exponent_chars_append]
      exact (List.dropWhile_suffix _).length_le

end

namespace Spelling

variable (w : Spelling)

/-- A spelling has no white space in it. -/
theorem isBlank_chars : ∀ c ∈ w.chars, isBlank c = false := by
  have hsign (sign : Sign) : ∀ c ∈ sign.chars, isBlank c = false := by
    cases sign <;> simp [Sign.chars] <;> decide
  have hdigits {s : List Char} (h : ∀ c ∈ s, isDecimal c = true) : ∀ c ∈ s, isBlank c = false :=
    fun c hc => isBlank_of_isDecimal (h c hc)
  cases w with
  | unbounded sign =>
    have hword : infinityWord.all (fun c => !isBlank c) = true := by decide
    exact List.forall_mem_append.mpr ⟨hsign sign, by simpa using hword⟩
  | decimal sign m x =>
    have hmantissa : ∀ c ∈ m.chars, isBlank c = false := by
      obtain ⟨whole, places, -, hdecimal⟩ := m
      rw [List.forall_mem_append] at hdecimal
      refine List.forall_mem_append.mpr ⟨hdigits hdecimal.1, ?_⟩
      cases places with
      | none => exact nofun
      | some places => exact List.forall_mem_cons.mpr ⟨by decide, hdigits hdecimal.2⟩
    have hexponent : ∀ c ∈ x.elim [] Exponent.chars, isBlank c = false := by
      cases x with
      | none => exact nofun
      | some x =>
        refine List.forall_mem_cons.mpr
          ⟨?_, List.forall_mem_append.mpr ⟨hsign x.sign, hdigits x.decimal⟩⟩
        rcases x.marks with hmark | hmark <;> rw [hmark] <;> decide
    exact List.forall_mem_append.mpr
      ⟨hsign sign, List.forall_mem_append.mpr ⟨hmantissa, hexponent⟩⟩

theorem chars_ne_nil : w.chars ≠ [] := by
  intro hnil
  cases w with
  | unbounded sign => exact absurd (List.append_eq_nil_iff.mp hnil).2 (by decide)
  | decimal sign m x =>
    obtain ⟨c, rest, hcons, -⟩ := m.head_chars (x.elim [] Exponent.chars)
    rw [chars, hcons] at hnil
    exact absurd (List.append_eq_nil_iff.mp hnil).2 (List.cons_ne_nil c rest)

theorem dropWhile_chars_append (t : List Char) :
    (w.chars ++ t).dropWhile isBlank = w.chars ++ t := by
  obtain ⟨c, rest, hcons⟩ := List.exists_cons_of_ne_nil w.chars_ne_nil
  have hblank : isBlank c = false := w.isBlank_chars c (hcons ▸ List.mem_cons_self)
  rw [hcons, List.cons_append, List.dropWhile_cons_of_neg (by simp [hblank])]

end Spelling

end Numeral

/-! ## White space -/

section

variable {s : List Char}

/-- What is trimmed off the end of a text is blank. -/
theorem exists_trimmed (s : List Char) :
    ∃ trail, s.dropWhile isBlank = trimChars s ++ trail ∧ ∀ c ∈ trail, isBlank c = true := by
  refine ⟨((s.dropWhile isBlank).reverse.takeWhile isBlank).reverse, ?_, fun c hc => ?_⟩
  · rw [trimChars, ← List.reverse_append, List.takeWhile_append_dropWhile, List.reverse_reverse]
  · exact List.mem_takeWhile_imp (List.mem_reverse.mp hc)

theorem trimChars_append {blanks : List Char} (h : ∀ c ∈ blanks, isBlank c = true) :
    trimChars (blanks ++ s) = trimChars s := by
  rw [trimChars, List.dropWhile_append_of_pos h]
  rfl

theorem trimChars_ne_nil {c : Char} (hc : c ∈ s) (h : isBlank c = false) : trimChars s ≠ [] := by
  intro hnil
  obtain ⟨trail, hs, htrail⟩ := exists_trimmed s
  rw [hnil, List.nil_append] at hs
  rw [← List.takeWhile_append_dropWhile (p := isBlank) (l := s), hs] at hc
  have hblank : isBlank c = true := by
    rcases List.mem_append.mp hc with hfront | hback
    · exact List.mem_takeWhile_imp hfront
    · exact htrail c hback
  rw [h] at hblank
  cases hblank

/-- No numeral goes on in white space. -/
theorem Numeral.closes_of_blank (h : ∀ c ∈ s, isBlank c = true) : Closes s := by
  intro c hc
  have hblank := h c (List.mem_of_mem_head? hc)
  refine ⟨?_, ?_, ?_, ?_⟩
  · by_contra hdigit
    rw [isBlank_of_isDecimal (by simpa using hdigit)] at hblank
    cases hblank
  all_goals
    rintro rfl
    exact absurd hblank (by decide)

end

namespace Number

open Numeral

variable {s : String} {w : Spelling}

/-! ## The two readers -/

/-- **A text that is a spelling**, but for white space around it, has the number that it spells. -/
theorem ofText_of_chars (h : trimChars s.toList = w.chars) : ofText s = w.value := by
  have hread := signed?_chars w (t := []) nofun
  rw [List.append_nil, ← h] at hread
  have hsome : trimChars s.toList ≠ [] := h ▸ w.chars_ne_nil
  unfold ofText
  simp [hsome, hread]

/-- **And no other text has one**, white space alone aside. -/
theorem ofText_isNaN_iff (hsome : trimChars s.toList ≠ []) :
    (ofText s).isNaN = false ↔ ∃ w : Spelling, trimChars s.toList = w.chars := by
  constructor
  · intro h
    unfold ofText at h
    simp only [List.isEmpty_iff, hsome, if_false] at h
    split at h
    · next n hread =>
      obtain ⟨w, hw, -⟩ := exists_spelling hread
      exact ⟨w, by rw [hw, List.append_nil]⟩
    · cases h
  · rintro ⟨w, hw⟩
    rw [ofText_of_chars hw]
    exact w.isNaN_value

/-- **The head of a text has the number of a spelling that stands there** alone. -/
theorem leading?_of_chars (h : trimChars s.toList = w.chars) : leading? s = some w.value := by
  obtain ⟨trail, hs, htrail⟩ := exists_trimmed s.toList
  rw [leading?, hs, h, signed?_chars w (closes_of_blank htrail)]
  rfl

/-- White space in front of a text makes no difference to its number. -/
theorem ofText_blanks {blanks : List Char} (h : ∀ c ∈ blanks, isBlank c = true) (s : List Char) :
    ofText (String.ofList (blanks ++ s)) = ofText (String.ofList s) := by
  rw [ofText, ofText, String.toList_ofList, String.toList_ofList, trimChars_append h]

/-- **What the spelling at the head of a text can be continued by** without the number being lost is
white space: anything else would make a longer spelling. -/
theorem isBlank_of_continued {t u : List Char}
    (hread : signed? (w.chars ++ (t ++ u)) = some (w.value, t ++ u))
    (h : (ofText (String.ofList (w.chars ++ t))).isNaN = false) : ∀ c ∈ t, isBlank c = true := by
  obtain ⟨w', hw'⟩ : ∃ w' : Spelling, trimChars (w.chars ++ t) = w'.chars := by
    obtain ⟨c, hc⟩ := List.exists_mem_of_ne_nil _ w.chars_ne_nil
    have hsome := trimChars_ne_nil (List.mem_append_left t hc) (w.isBlank_chars c hc)
    rw [← String.toList_ofList (l := w.chars ++ t)] at hsome ⊢
    exact (ofText_isNaN_iff hsome).mp h
  obtain ⟨trail, htrail, hblanks⟩ := exists_trimmed (w.chars ++ t)
  rw [hw', w.dropWhile_chars_append] at htrail
  have hlength : t.length ≤ trail.length := by
    obtain ⟨n, rest, hread', hlength⟩ := exists_signed?_le w' (trail ++ u)
    rw [← List.append_assoc, ← htrail, List.append_assoc, hread] at hread'
    obtain ⟨-, rfl⟩ := Prod.mk.inj (Option.some.inj hread')
    rwa [List.length_append, List.length_append, Nat.add_le_add_iff_right] at hlength
  have hbehind : trail <:+ w.chars ++ t := htrail ▸ List.suffix_append _ _
  have hsuffix : t <:+ trail :=
    List.suffix_of_suffix_length_le (List.suffix_append _ _) hbehind hlength
  exact fun c hc => hblanks c (hsuffix.subset hc)

/-- **The readers agree** on a text with a number. What is found at the head of any text is the number of
the longest piece there that has one, white space behind it aside. -/
theorem readers_agree (s : String) :
    (trim s ≠ "" → (ofText s).isNaN = false → leading? s = some (ofText s)) ∧
    ∀ n, leading? s = some n → ∃ r, r <+: s.toList ∧ n.isNaN = false ∧ ofText (String.ofList r) = n ∧
      ∀ t, r ++ t <+: s.toList → (∃ c ∈ t, isBlank c = false) →
        (ofText (String.ofList (r ++ t))).isNaN = true := by
  constructor
  · intro hblank hnumber
    have hsome : trimChars s.toList ≠ [] := by
      intro hnil
      exact hblank (by rw [trim, hnil])
    obtain ⟨w, hw⟩ := (ofText_isNaN_iff hsome).mp hnumber
    rw [leading?_of_chars hw, ofText_of_chars hw]
  · intro n h
    obtain ⟨⟨_, rest⟩, hread, rfl⟩ := Option.map_eq_some_iff.mp h
    obtain ⟨w, hw, rfl⟩ := exists_spelling hread
    obtain ⟨lead, hlead, hs⟩ : ∃ lead, (∀ c ∈ lead, isBlank c = true) ∧
        lead ++ w.chars ++ rest = s.toList := by
      refine ⟨s.toList.takeWhile isBlank, fun c hc => List.mem_takeWhile_imp hc, ?_⟩
      rw [List.append_assoc, ← hw, List.takeWhile_append_dropWhile]
    refine ⟨lead ++ w.chars, ⟨rest, hs⟩, w.isNaN_value, ?_, ?_⟩
    · refine (ofText_blanks hlead _).trans (ofText_of_chars ?_)
      rw [String.toList_ofList, trimChars_of_nonblank w.isBlank_chars]
    · rintro t ⟨u, hu⟩ ⟨c, hc, hblank⟩
      rw [← hs, List.append_assoc _ t u] at hu
      obtain rfl := List.append_cancel_left hu
      rw [hw] at hread
      by_contra hnumber
      rw [List.append_assoc, ofText_blanks hlead] at hnumber
      rw [isBlank_of_continued hread (Bool.eq_false_iff.mpr hnumber) c hc] at hblank
      cases hblank

/-- White space around a number, and a mark of an exponent that is given back. -/
theorem readers_agree_dangling :
    (trim "\t+1.5e3\n" ≠ "" ∧ (ofText "\t+1.5e3\n").isNaN = false ∧
      leading? "\t+1.5e3\n" = some (ofText "\t+1.5e3\n")) ∧
    leading? " -.5e+ 7" = some (.double (.finite true 4503599627370496 (-53))) ∧
    ∃ r, r <+: " -.5e+ 7".toList ∧
      ofText (String.ofList r) = .double (.finite true 4503599627370496 (-53)) ∧
      ∀ t, r ++ t <+: " -.5e+ 7".toList → (∃ c ∈ t, isBlank c = false) →
        (ofText (String.ofList (r ++ t))).isNaN = true := by
  have hblank : trim "\t+1.5e3\n" ≠ "" := by decide
  have hnumber : (ofText "\t+1.5e3\n").isNaN = false := by decide +kernel
  have hhead : leading? " -.5e+ 7" = some (.double (.finite true 4503599627370496 (-53))) := by
    decide +kernel
  refine ⟨⟨hblank, hnumber, (readers_agree _).1 hblank hnumber⟩, hhead, ?_⟩
  obtain ⟨r, hr, -, hvalue, hlonger⟩ := (readers_agree _).2 _ hhead
  exact ⟨r, hr, hvalue, hlonger⟩

end Number

end ChatFlow
