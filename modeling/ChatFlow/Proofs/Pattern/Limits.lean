import Mathlib
import ChatFlow.Pattern.Parser

/-!
# The limits of patterns

A text that is no pattern is malformed, and there is nothing more to it. A limit that is broken is a
fault instead. Here it is said of the text alone when it strains a limit, and of the reader how it
goes through a text: what it has taken was written there.

* `Strains` — a text that strains a limit, and the fault that it may then be refused with;
* `Passed`, `Inside`, `After` — where the reader is in a text;
* `Takes` — a step that takes a known part of the text or finds it malformed;
* `Reads` — **a step that reads on in a text**, and faults only where the text strains a limit.
-/

namespace ChatFlow.Pattern

open Std.Do

set_option mvcgen.warning false

/-! ## Texts that strain a limit -/

/-- Digits that stand between braces, with nothing but digits and commas beside them. -/
def Counted (s digits : List Char) : Prop :=
  ∃ body, '\x7b' :: body ++ ['\x7d'] <:+: s ∧ (∀ c ∈ body, Json.isAsciiDigit c ∨ c = ',') ∧
    digits <:+: body ∧ ∀ c ∈ digits, Json.isAsciiDigit c

/-- A letter that is asked for as an option of the whole pattern. -/
def Asked (s : List Char) (letter : Char) : Prop :=
  ∃ letters, '(' :: '?' :: letters ++ [')'] <:+: s ∧ letter ∈ letters ∧
    ∀ c ∈ letters, (Options.ofLetter? c).isSome

/-- **A text strains a limit**, with the fault that stands for it. -/
inductive Strains (s : List Char) : Fault → Prop
  /-- a count has too many digits -/
  | digits {digits : List Char} (counted : Counted s digits)
      (long : Number.digitLimit < digits.length) : Strains s .digitLimit
  /-- a count is too large -/
  | count {digits : List Char} (counted : Counted s digits)
      (large : Nat.pow 2 32 - 1 ≤ baseValue 10 digits) : Strains s .patternRange
  /-- an escaped code is too large -/
  | code {digits : List Char} (written : ['\\', 'U'] ++ digits <:+: s) (eight : digits.length = 8)
      (hex : ∀ c ∈ digits, (Json.hexValue? c).isSome) (large : Nat.pow 2 31 ≤ baseValue 16 digits) :
      Strains s .patternRange
  /-- two options that exclude each other are asked for -/
  | options (ascii : Asked s 'a') (full : Asked s 'u') : Strains s .patternOptions

/-- **A refusal that a text deserves**: it may always be malformed, and faults are for texts that
strain a limit. -/
def Refusal.Due (s : List Char) : Refusal → Prop
  | .malformed => True
  | .fault f => Strains s f

@[simp, grind .] theorem Refusal.due_malformed (s : List Char) : Refusal.malformed.Due s := trivial

/-! ## Pieces as text -/

/-- The text of a piece. -/
@[grind =] def Piece.text : Piece → List Char
  | .plain c => [c]
  | .escaped c => ['\\', c]
  | .broken => ['\\']

/-- The text of pieces. -/
def textOf (ps : List Piece) : List Char := ps.flatMap Piece.text

@[simp, grind =] theorem textOf_nil : textOf [] = [] := rfl

@[simp, grind =] theorem textOf_cons (p : Piece) (ps : List Piece) :
    textOf (p :: ps) = p.text ++ textOf ps := rfl

/-- **The pieces of a text hold all of it.** -/
theorem textOf_pieces (s : List Char) : textOf (pieces s) = s := by
  fun_induction pieces s with
  | case1 => rfl
  | case2 => rfl
  | case3 c s ih => rw [textOf_cons, ih]; rfl
  | case4 c s _ _ ih => rw [textOf_cons, ih]; rfl

/-- What `upTo` takes off: the text before the mark, and the mark. -/
theorem textOf_upTo {mark : Char} {ps after : List Piece} {s : List Char}
    (h : upTo mark ps = some (s, after)) : textOf ps = s ++ mark :: textOf after := by
  fun_induction upTo mark ps generalizing s after with
  | case1 | case2 => cases h
  | case3 rest => grind
  | case4 c rest hc ih | case5 c rest ih =>
    obtain ⟨⟨s, rest⟩, hrest, heq⟩ := Option.map_eq_some_iff.mp h
    obtain ⟨rfl, rfl⟩ := Prod.mk.inj heq
    simp [ih hrest, Piece.text]

theorem textOf_pastLine (ps : List Piece) : textOf (pastLine ps) <:+ textOf ps := by
  fun_induction pastLine ps with
  | case1 => exact List.suffix_rfl
  | case2 rest => exact List.suffix_append ['\n'] _
  | case3 p rest hp ih => exact ih.trans (List.suffix_append p.text _)

/-! ## Where the reader is -/

section Place

variable {r r' : Reading} {s t u : List Char}

/-- From one reading to another, a text was passed. -/
structure Passed (r : Reading) (t : List Char) (r' : Reading) : Prop where
  /-- it was ahead -/
  text : textOf r.ahead = t ++ textOf r'.ahead
  /-- no option was asked for -/
  options : r'.options = r.options

/-- **A reading of a text**: what is ahead is the rest of it, and the options were asked for. -/
structure Inside (s : List Char) (r : Reading) : Prop where
  /-- the text ends with what is ahead -/
  ahead : textOf r.ahead <:+ s
  /-- one option -/
  ascii : r.options.ascii → Asked s 'a'
  /-- and the option that excludes it -/
  full : r.options.full → Asked s 'u'

/-- A text was read just before what is ahead. -/
def After (s t : List Char) (r : Reading) : Prop := t ++ textOf r.ahead <:+ s

@[grind .] theorem Passed.refl (r : Reading) : Passed r [] r := ⟨rfl, rfl⟩

theorem Passed.trans {r'' : Reading} (h : Passed r t r') (h' : Passed r' u r'') :
    Passed r (t ++ u) r'' :=
  ⟨by rw [h.text, h'.text, List.append_assoc], h'.options.trans h.options⟩

theorem Passed.of_head? {p : Piece} (h : r.ahead.head? = some p) :
    Passed r p.text { r with ahead := r.ahead.tail } := by
  rcases hr : r.ahead with _ | ⟨q, ps⟩
  · rw [hr] at h
    cases h
  · obtain rfl : q = p := by simpa [hr] using h
    exact ⟨by rw [hr]; rfl, rfl⟩

@[grind →] theorem Passed.of_upTo {mark : Char} {after : List Piece}
    (h : upTo mark r.ahead = some (t, after)) :
    Passed r (t ++ [mark]) { r with ahead := after } :=
  ⟨by simp [textOf_upTo h], rfl⟩

@[grind →] theorem Inside.pass (h : Inside s r) (hp : Passed r t r') : Inside s r' where
  ahead := (List.suffix_append t _).trans (hp.text ▸ h.ahead)
  ascii := hp.options ▸ h.ascii
  full := hp.options ▸ h.full

/-- Only what is ahead and the options count. -/
theorem Inside.same (h : Inside s r) (ha : r'.ahead = r.ahead) (ho : r'.options = r.options) :
    Inside s r' :=
  ⟨ha ▸ h.ahead, ho ▸ h.ascii, ho ▸ h.full⟩

theorem Inside.pastLine (h : Inside s r) :
    Inside s { r with ahead := Pattern.pastLine r.ahead } :=
  ⟨(textOf_pastLine _).trans h.ahead, h.ascii, h.full⟩

@[grind →] theorem Inside.after (h : Inside s r) (hp : Passed r t r') : After s t r' := by
  rw [After, ← hp.text]
  exact h.ahead

theorem After.pass (h : After s t r) (hp : Passed r u r') : After s (t ++ u) r' := by
  rw [After, List.append_assoc, ← hp.text]
  exact h

/-- What was read stands in the text. -/
theorem After.isInfix (h : After s t r) : t <:+: s :=
  (List.prefix_append t _).isInfix.trans (List.IsSuffix.isInfix h)

end Place

/-! ## Steps of the reader -/

section Steps

variable {α : Type}

/-- What is said of the end of a step. -/
def Ends (Q : α → Reading → Prop) (E : Refusal → Prop) : Except Refusal (α × Reading) → Prop
  | .ok (a, r) => Q a r
  | .error e => E e

theorem wp_iff {m : ReadM α} {Q : α → Reading → Prop} {E : Refusal → Prop} {r : Reading} :
    (wp⟦m⟧ post⟨fun a r => ⌜Q a r⌝, fun e => ⌜E e⌝⟩ r).down ↔ Ends Q E (m r) := by
  change ((wp (m r)).apply
    (fun (end_ : α × Reading) => ⌜Q end_.1 end_.2⌝, fun e => ⌜E e⌝, PUnit.unit)).down ↔ _
  rcases m r with e | ⟨a, r'⟩ <;> rfl

/-- A triple is read off the runs of a step. -/
theorem triple_iff {m : ReadM α} {P : Reading → Prop} {Q : α → Reading → Prop}
    {E : Refusal → Prop} :
    ⦃fun r => ⌜P r⌝⦄ m ⦃post⟨fun a r => ⌜Q a r⌝, fun e => ⌜E e⌝⟩⦄ ↔ ∀ r, P r → Ends Q E (m r) :=
  forall_congr' fun _ => imp_congr Iff.rfl wp_iff

/-- **A step that takes a known part of the text** from a reading on, or finds it malformed. -/
abbrev Takes (r : Reading) (m : ReadM α) (Q : α → Reading → Prop) : Prop :=
  ⦃fun now => ⌜now = r⌝⦄ m ⦃post⟨fun a r' => ⌜Q a r'⌝, fun e => ⌜e = .malformed⌝⟩⦄

/-- **A step that reads on in a text**: it stays inside, and its faults are due. -/
abbrev Reads (s : List Char) (m : ReadM α) : Prop :=
  ⦃fun r => ⌜Inside s r⌝⦄ m ⦃post⟨fun _ r => ⌜Inside s r⌝, fun e => ⌜e.Due s⌝⟩⦄

/-- A step that reads on in a text, where another text was read just before. -/
abbrev ReadsAfter (s t : List Char) (m : ReadM α) : Prop :=
  ⦃fun r => ⌜Inside s r ∧ After s t r⌝⦄ m ⦃post⟨fun _ r => ⌜Inside s r⌝, fun e => ⌜e.Due s⌝⟩⦄

variable {Q : PostCond α (.arg Reading (.except Refusal .pure))}

@[spec] theorem malformed_spec : ⦃fun _ => Q.2.1 .malformed⦄ (malformed : ReadM α) ⦃Q⦄ :=
  fun _ h => h

theorem fault_spec (f : Fault) :
    ⦃fun _ => Q.2.1 (.fault f)⦄ (throw (.fault f) : ReadM α) ⦃Q⦄ :=
  fun _ h => h

@[spec] theorem peek_spec (r : Reading) :
    Takes r peek fun p r' => r.ahead.head? = p ∧ r' = r := by
  mvcgen [peek]
  grind

@[spec] theorem goOn_spec (ahead : List Piece) (r : Reading) :
    Takes r (goOn ahead) fun _ r' => r' = { r with ahead := ahead } := by
  mvcgen [goOn]
  grind

@[spec] theorem take_spec (r : Reading) : Takes r take fun p r' =>
    r.ahead.head? = p ∧ ∀ piece, p = some piece → Passed r piece.text r' := by
  mvcgen [take]
  grind [Passed.of_head?]

@[spec] theorem accept_spec (c : Char) (r : Reading) :
    Takes r (accept c) fun taken r' => if taken then Passed r [c] r' else r' = r := by
  mvcgen [accept] <;> grind

@[spec] theorem takePiece_spec (r : Reading) :
    Takes r takePiece fun p r' => Passed r p.text r' := by
  mvcgen [takePiece]
  grind

@[spec] theorem takeWhileIn_spec (ok : Char → Bool) (n : Nat) (r : Reading) :
    Takes r (takeWhileIn ok n) fun t r' => Passed r t r' ∧ ∀ c ∈ t, ok c := by
  induction n generalizing r with
  | zero =>
    mvcgen [takeWhileIn]
    grind
  | succ n ih => mvcgen [takeWhileIn, ih] <;> grind [→ Passed.trans]

@[spec] theorem takeDigits_spec (r : Reading) :
    Takes r takeDigits fun t r' => Passed r t r' ∧ ∀ c ∈ t, Json.isAsciiDigit c := by
  mvcgen [takeDigits]

@[spec] theorem takeUpTo_spec (mark : Char) (r : Reading) :
    Takes r (takeUpTo mark) fun t r' => Passed r (t ++ [mark]) r' := by
  mvcgen [takeUpTo]
  grind

@[spec] theorem takeHex_spec (width : Nat) (r : Reading) : Takes r (takeHex width) fun n r' =>
    ∃ digits, Passed r digits r' ∧ digits.length = width ∧
      (∀ c ∈ digits, (Json.hexValue? c).isSome) ∧ n = baseValue 16 digits := by
  mvcgen [takeHex]
  grind

@[spec] theorem expect_spec {s : List Char} (c : Char) : Reads s (expect c) := by
  mvcgen [expect] <;> grind

end Steps

end ChatFlow.Pattern
