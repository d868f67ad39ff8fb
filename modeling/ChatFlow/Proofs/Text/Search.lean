import ChatFlow.Text.Search
import Mathlib.Data.List.Basic

/-!
# Searching text

What cutting and replacing do to texts that are put together from parts:

* `dropLeading?_eq_some_iff`, `startsWith_iff` — a piece stands at the head of a text;
* `replaceAll_cons`, `occursIn_cons` — one character further on;
* `replaceAll_append`, `occursIn_append` — a part without the first character of the piece is passed
  over; `occursIn_append_closed` — a part without the last one is not reached;
* `replaceAll_self_append` — the piece itself is replaced;
* `replaceAll_of_absent`, `occursIn_iff` — a piece that does not occur changes nothing, and where it
  occurs there is text before and behind it;
* `splitOn_singleton` — cutting at a character is that of the library.
-/

namespace ChatFlow

variable {piece value a s t : List Char} {c : Char}

/-! ## At the head -/

theorem dropLeading?_eq_some_iff : dropLeading? piece s = some t ↔ s = piece ++ t := by
  induction piece generalizing s with
  | nil => simp [dropLeading?]
  | cons p piece ih =>
    cases s with
    | nil => simp [dropLeading?]
    | cons c s =>
      by_cases hp : p = c
      · subst hp
        simp [dropLeading?, ih]
      · simp [dropLeading?, hp, Ne.symm hp]

theorem startsWith_iff : startsWith piece s = true ↔ ∃ t, s = piece ++ t := by
  simp only [startsWith, Option.isSome_iff_exists, dropLeading?_eq_some_iff]

theorem startsWith_append (piece t : List Char) : startsWith piece (piece ++ t) = true :=
  startsWith_iff.mpr ⟨t, rfl⟩

/-- A piece does not stand where another character than its first one does. -/
theorem startsWith_cons_of_ne {p : Char} (h : p ≠ c) (piece s : List Char) :
    startsWith (p :: piece) (c :: s) = false := by
  simp [startsWith, dropLeading?, h]

/-- What stands before the first closing character of a text. -/
theorem takeWhile_closed {close : Char} (h : close ∉ a) (s : List Char) :
    (a ++ close :: s).takeWhile (· ≠ close) = a := by
  rw [List.takeWhile_append_of_pos]
  · simp
  · intro c hc
    simpa using fun he : c = close => h (he ▸ hc)

/-- **A piece that ends at its first closing character** stands at the head of a text that does so
as well only if the two agree up to there. -/
theorem eq_of_startsWith_closed {close : Char} {name : List Char} (hp : close ∉ piece)
    (hn : close ∉ name) (h : startsWith (piece ++ [close]) (name ++ close :: s) = true) :
    piece = name := by
  obtain ⟨t, ht⟩ := startsWith_iff.mp h
  rw [List.append_assoc, List.singleton_append] at ht
  rw [← takeWhile_closed hp t, ← ht, takeWhile_closed hn s]

/-- A piece without the closing character reaches no further than the text before it. -/
theorem exists_of_dropLeading?_closed {close : Char} {name : List Char} (hp : close ∉ piece)
    (h : dropLeading? piece (name ++ close :: s) = some t) :
    ∃ key, name = piece ++ key ∧ t = key ++ close :: s := by
  rw [dropLeading?_eq_some_iff, List.append_eq_append_iff] at h
  rcases h with ⟨more, hpiece, hmore⟩ | ⟨key, hname, ht⟩
  · -- otherwise the closing character would be the first of what the piece has more
    cases more with
    | nil => exact ⟨[], by simpa using hpiece.symm, by simpa using hmore.symm⟩
    | cons c more =>
      obtain ⟨rfl, -⟩ := List.cons.inj hmore
      exact absurd (hpiece ▸ List.mem_append_right name List.mem_cons_self) hp
  · exact ⟨key, hname, ht⟩

/-! ## Replacing -/

theorem replaceAux_eq (piece value s : List Char) (n : Nat) :
    replaceAux piece value s n = replaceAll piece value (s.drop n) := by
  induction n generalizing s with
  | zero => rfl
  | succ n ih =>
    cases s with
    | nil => rfl
    | cons c s => rw [replaceAux, ih, List.drop_succ_cons]

/-- Where the piece does not stand, a character is passed over. -/
theorem replaceAll_cons (h : startsWith piece (c :: s) = false) :
    replaceAll piece value (c :: s) = c :: replaceAll piece value s := by
  simp [replaceAll, replaceAux, h]

/-- **The piece is replaced**, and the search goes on behind it. -/
theorem replaceAll_self_append (hp : piece ≠ []) :
    replaceAll piece value (piece ++ s) = value ++ replaceAll piece value s := by
  obtain ⟨p, piece, rfl⟩ := List.exists_cons_of_ne_nil hp
  rw [replaceAll, List.cons_append, replaceAux, ← List.cons_append,
    if_pos (startsWith_append _ _), replaceAux_eq]
  simp

/-- **A part without the first character of the piece** is passed over. -/
theorem replaceAll_append {p : Char} (h : p ∉ a) :
    replaceAll (p :: piece) value (a ++ s) = a ++ replaceAll (p :: piece) value s := by
  induction a with
  | nil => rfl
  | cons c a ih =>
    obtain ⟨hc, ha⟩ := not_or.mp (mt List.mem_cons.mpr h)
    rw [List.cons_append, replaceAll_cons (startsWith_cons_of_ne hc _ _), ih ha, List.cons_append]

/-! ## Occurring -/

theorem occursIn_cons (h : startsWith piece (c :: s) = false) :
    occursIn piece (c :: s) = occursIn piece s := by
  rw [occursIn, h, Bool.false_or]

theorem occursIn_append {p : Char} (h : p ∉ a) :
    occursIn (p :: piece) (a ++ s) = occursIn (p :: piece) s := by
  induction a with
  | nil => rfl
  | cons c a ih =>
    obtain ⟨hc, ha⟩ := not_or.mp (mt List.mem_cons.mpr h)
    rw [List.cons_append, occursIn_cons (startsWith_cons_of_ne hc _ _), ih ha]

theorem occursIn_self_append (hp : piece ≠ []) : occursIn piece (piece ++ s) = true := by
  obtain ⟨p, piece, rfl⟩ := List.exists_cons_of_ne_nil hp
  rw [List.cons_append, occursIn, ← List.cons_append, startsWith_append, Bool.true_or]

/-- **A piece occurs** where some text has it between what stands before and behind. -/
theorem occursIn_iff : occursIn piece s = true ↔ ∃ a b, s = a ++ (piece ++ b) := by
  induction s with
  | nil =>
    simp only [occursIn, List.isEmpty_iff, List.nil_eq, List.append_eq_nil_iff]
    exact ⟨fun h => ⟨[], [], rfl, h, rfl⟩, fun ⟨_, _, _, h, _⟩ => h⟩
  | cons c s ih =>
    rw [occursIn, Bool.or_eq_true, startsWith_iff, ih]
    constructor
    · rintro (⟨t, ht⟩ | ⟨a, b, rfl⟩)
      · exact ⟨[], t, ht⟩
      · exact ⟨c :: a, b, rfl⟩
    · rintro ⟨a, b, h⟩
      cases a with
      | nil => exact .inl ⟨b, h⟩
      | cons c' a => exact .inr ⟨a, b, (List.cons.inj h).2⟩

/-- **A piece that does not occur** is not replaced. -/
theorem replaceAll_of_absent (h : occursIn piece s = false) : replaceAll piece value s = s := by
  induction s with
  | nil => rfl
  | cons c s ih =>
    rw [occursIn, Bool.or_eq_false_iff] at h
    rw [replaceAll_cons h.1, ih h.2]

/-- What ends with the closing character lies before a part that has none. -/
theorem exists_of_append_closed {close : Char} {b : List Char} (h : close ∉ b)
    (heq : s ++ b = a ++ close :: t) : ∃ rest, s = a ++ close :: rest := by
  rcases List.append_eq_append_iff.mp heq with ⟨more, -, hb⟩ | ⟨rest, hs, hrest⟩
  · exact absurd (hb ▸ List.mem_append_right more List.mem_cons_self) h
  · cases rest with
    | nil =>
      rw [List.nil_append] at hrest
      exact absurd (hrest ▸ List.mem_cons_self) h
    | cons c rest =>
      obtain ⟨rfl, -⟩ := List.cons.inj hrest
      exact ⟨rest, hs⟩

/-- **A piece that ends with the closing character** does not reach into a part without one. -/
theorem occursIn_append_closed {close : Char} {b : List Char} (h : close ∉ b) :
    occursIn (piece ++ [close]) (s ++ b) = occursIn (piece ++ [close]) s := by
  rw [Bool.eq_iff_iff, occursIn_iff, occursIn_iff]
  constructor
  · rintro ⟨a, t, hs⟩
    obtain ⟨rest, rfl⟩ := exists_of_append_closed (a := a ++ piece) (t := t) h (by simpa using hs)
    exact ⟨a, rest, by simp⟩
  · rintro ⟨a, t, rfl⟩
    exact ⟨a, t ++ b, by simp⟩

/-- A piece does not occur in a text without its first character. -/
theorem occursIn_of_notMem {p : Char} (h : p ∉ s) : occursIn (p :: piece) s = false := by
  have happend : occursIn (p :: piece) (s ++ []) = occursIn (p :: piece) [] := occursIn_append h
  rwa [List.append_nil] at happend

/-! ## Cutting at a character -/

theorem splitAux_singleton (sep : Char) (s piece : List Char) :
    splitAux [sep] s 0 piece = s.splitOnPPrepend (· == sep) piece := by
  induction s generalizing piece with
  | nil => rfl
  | cons c s ih =>
    have hstarts : startsWith [sep] (c :: s) = (c == sep) := by
      rw [startsWith, dropLeading?]
      by_cases h : sep = c
      · simp [h, dropLeading?]
      · simp [h, Ne.symm h]
    have hskip : ([sep] : List Char).length - 1 = 0 := rfl
    rw [splitAux, List.splitOnPPrepend, hstarts, hskip, ih, ih]

/-- **Cutting at a character** is that of the library. -/
theorem splitOn_singleton (sep : Char) (s : List Char) : splitOn [sep] s = s.splitOn sep :=
  splitAux_singleton sep s []

end ChatFlow
