import ChatFlow.Proofs.Pattern.Limits

/-!
# The faults of reading a pattern

Each function of the reader reads on in the text it is given: from a reading inside the text it
leaves a reading inside, whatever it does with it, and a fault that it ends with is due, whichever
characters have names. Four of them look for a limit, and for these it matters what was read before: a
long code stands behind `\U`, counts stand between braces, options behind `(?` and before `)`.

* `takeLongCode_spec`, `braces_spec`, `groupOptions_spec`, `whole_spec` — the functions that look;
* `Lawful` — alternatives, sequences and groups call each other, so one statement is about all of
  them, by induction on how much deeper they may go;
* `strains_of_parse` — **a pattern is read without a fault unless its text strains a limit**.
-/

namespace ChatFlow.Pattern

open Std.Do

set_option mvcgen.warning false

variable {s t : List Char} {r r' : Reading}

/-! ## Escapes -/

theorem After.due_code {digits : List Char} (h : After s ['\\', 'U'] r) (hp : Passed r digits r')
    (eight : digits.length = 8) (hex : ∀ c ∈ digits, (Json.hexValue? c).isSome)
    (large : Nat.pow 2 31 ≤ baseValue 16 digits) : (Refusal.fault .patternRange).Due s :=
  .code (h.pass hp).isInfix eight hex large

@[spec] theorem takeLongCode_spec : ReadsAfter s ['\\', 'U'] takeLongCode := by
  mvcgen [takeLongCode, fault_spec, -Spec.throw_MonadExcept] <;> grind [After.due_code]

@[spec] theorem takeNamedCode_spec : Reads s takeNamedCode := by
  mvcgen [takeNamedCode] <;> grind

@[spec] theorem codeEscape?_spec (c : Char) : ReadsAfter s ['\\', c] (codeEscape? c) := by
  mvcgen [codeEscape?] <;> grind

@[spec] theorem takeOctal_spec (c : Char) : Reads s (takeOctal c) := by
  mvcgen [takeOctal] <;> grind

@[spec] theorem otherEscape_spec (c : Char) : Reads s (otherEscape c) := by
  mvcgen [otherEscape]

@[spec] theorem setEscape_spec (env : Options) (c : Char) :
    ReadsAfter s ['\\', c] (setEscape env c) := by
  mvcgen [setEscape] <;> grind

/-- A reference is only checked; nothing is taken. -/
@[spec] theorem checkReference_spec (index : Nat) : Reads s (checkReference index) := by
  mvcgen [checkReference]
  -- from a look behind; what is left to do is the check of the index
  rename_i r h closed limit _ checkIndex
  rw [wp_iff]
  have hindex : Ends (fun _ => Inside s) (Refusal.Due s) (checkIndex () r) := by
    by_cases hl : limit ≤ index
    · simp only [checkIndex, if_pos hl]
      trivial
    · simp only [checkIndex, if_neg hl]
      exact h
  by_cases hc : closed = true
  · rw [if_pos hc]
    exact hindex
  · rw [if_neg hc]
    trivial

@[spec] theorem reference_spec (env : Options) (index : Nat) : Reads s (reference env index) := by
  mvcgen [reference]

@[spec] theorem digitEscape_spec (env : Options) (c : Char) : Reads s (digitEscape env c) := by
  mvcgen [digitEscape] <;> grind

@[spec] theorem escape_spec (env : Options) (c : Char) :
    ReadsAfter s ['\\', c] (escape env c) := by
  mvcgen [escape] <;> grind

/-! ## Sets -/

@[spec] theorem setMember_spec (env : Options) (p : Piece) :
    ReadsAfter s p.text (setMember env p) := by
  mvcgen [setMember]
  grind

@[spec] theorem setItems_spec (env : Options) (fuel : Nat) (items : List SetItem) :
    Reads s (setItems env fuel items) := by
  induction fuel generalizing items with
  | zero => mvcgen [setItems]
  | succ fuel ih => mvcgen [setItems, ih] <;> grind

@[spec] theorem charSet_spec (env : Options) : Reads s (charSet env) := by
  mvcgen [charSet] <;> grind

/-! ## Repetitions -/

@[spec] theorem countOf_spec {digits : List Char} (h : Counted s digits) :
    Reads s (countOf digits) := by
  mvcgen [countOf, fault_spec, -Spec.throw_MonadExcept]
  case vc1 hlong _ _ => exact .digits h hlong
  case vc2 hlarge _ _ => exact .count h hlarge

section Counts

variable {r₁ r₂ r₃ : Reading} {low high : List Char}

/-- One count between braces. -/
theorem After.counted (h : After s ['\x7b'] r) (hlow : Passed r low r₁)
    (hclose : Passed r₁ ['\x7d'] r₂) (hall : ∀ c ∈ low, Json.isAsciiDigit c) : Counted s low :=
  ⟨low, ((h.pass hlow).pass hclose).isInfix, fun c hc => .inl (hall c hc), List.infix_rfl, hall⟩

/-- Two counts between braces. -/
theorem After.counted_both (h : After s ['\x7b'] r) (hlow : Passed r low r₁)
    (hcomma : Passed r₁ [','] r₂) (hhigh : Passed r₂ high r₃) (hclose : Passed r₃ ['\x7d'] r')
    (halllow : ∀ c ∈ low, Json.isAsciiDigit c) (hallhigh : ∀ c ∈ high, Json.isAsciiDigit c) :
    Counted s low ∧ Counted s high := by
  have hbody : '\x7b' :: (low ++ ',' :: high) ++ ['\x7d'] <:+: s := by
    simpa using ((((h.pass hlow).pass hcomma).pass hhigh).pass hclose).isInfix
  have hall : ∀ c ∈ low ++ ',' :: high, Json.isAsciiDigit c ∨ c = ',' := by
    simp only [List.mem_append, List.mem_cons]
    rintro c (hc | rfl | hc)
    · exact .inl (halllow c hc)
    · exact .inr rfl
    · exact .inl (hallhigh c hc)
  exact ⟨⟨_, hbody, hall, (List.prefix_append _ _).isInfix, halllow⟩,
    ⟨_, hbody, hall, ⟨low ++ [','], [], by simp⟩, hallhigh⟩⟩

end Counts

@[spec] theorem braces_spec : ReadsAfter s ['\x7b'] braces := by
  mvcgen [braces] <;> grind [→ After.counted, → After.counted_both]

@[spec] theorem takeGreed_spec : Reads s takeGreed := by
  mvcgen [takeGreed] <;> grind

@[spec] theorem repeated_spec (item : Item) (least : Nat) (most : Option Nat) :
    Reads s (repeated item least most) := by
  mvcgen [repeated]
  grind [Inside.same]

@[spec] theorem repeatLast_spec (items : List Item) (least : Nat) (most : Option Nat) :
    Reads s (repeatLast items least most) := by
  mvcgen [repeatLast]

/-! ## Options -/

theorem Options.eq_a_of_ofLetter? {c : Char} {o : Options} (h : ofLetter? c = some o)
    (ha : o.ascii) : c = 'a' := by
  unfold ofLetter? at h
  split at h <;> grind [Options.none]

theorem Options.eq_u_of_ofLetter? {c : Char} {o : Options} (h : ofLetter? c = some o)
    (hf : o.full) : c = 'u' := by
  unfold ofLetter? at h
  split at h <;> grind [Options.none]

/-- **Letters switch options on**: those at hand, a piece just taken and what is ahead become
others, by the letters that were passed. -/
structure Switches (on : Options) (p : Piece) (r : Reading) (letters : List Char) (on' : Options)
    (p' : Piece) (r' : Reading) : Prop where
  /-- the letters were read, from the first piece up to the last one -/
  text : p.text ++ textOf r.ahead = letters ++ (p'.text ++ textOf r'.ahead)
  /-- the options of the whole pattern are as before -/
  options : r'.options = r.options
  /-- they are letters of options -/
  known : ∀ c ∈ letters, (Options.ofLetter? c).isSome
  /-- one option -/
  ascii : on'.ascii → on.ascii ∨ 'a' ∈ letters
  /-- and the option that excludes it -/
  full : on'.full → on.full ∨ 'u' ∈ letters

namespace Switches

variable {on on' : Options} {p p' : Piece} {letters letters' : List Char}

/-- One letter. -/
theorem one {o : Options} {c : Char} (hc : Options.ofLetter? c = some o)
    (hp : Passed r p.text r') : Switches on (.plain c) r [c] (on.union o) p r' where
  text := by rw [hp.text]; rfl
  options := hp.options
  known := by simp [hc]
  ascii h := by
    rcases Bool.or_eq_true_iff.mp h with h | h
    · exact .inl h
    · simp [Options.eq_a_of_ofLetter? hc h]
  full h := by
    rcases Bool.or_eq_true_iff.mp h with h | h
    · exact .inl h
    · simp [Options.eq_u_of_ofLetter? hc h]

theorem trans {on'' : Options} {p'' : Piece} {r'' : Reading}
    (h : Switches on p r letters on' p' r') (h' : Switches on' p' r' letters' on'' p'' r'') :
    Switches on p r (letters ++ letters') on'' p'' r'' where
  text := by rw [h.text, h'.text, List.append_assoc]
  options := h'.options.trans h.options
  known := List.forall_mem_append.mpr ⟨h.known, h'.known⟩
  ascii ha := by
    rw [List.mem_append, ← or_assoc]
    exact (h'.ascii ha).imp_left h.ascii
  full hf := by
    rw [List.mem_append, ← or_assoc]
    exact (h'.full hf).imp_left h.full

theorem after (h : Switches on p r letters on' p' r') (ht : After s (t ++ p.text) r) :
    After s (t ++ letters ++ p'.text) r' := by
  rw [After, List.append_assoc, h.text] at ht
  simpa [After] using ht

theorem inside (h : Switches on p r letters on' p' r') (hi : Inside s r)
    (ht : After s (t ++ p.text) r) : Inside s r' where
  ahead := (List.suffix_append _ _).trans (h.after ht)
  ascii := h.options ▸ hi.ascii
  full := h.options ▸ hi.full

/-- Up to the closing parenthesis, the letters ask for options of the whole pattern. -/
theorem asked (h : Switches on p r letters on' (.plain ')') r')
    (ht : After s (['(', '?'] ++ p.text) r) {c : Char} (hc : c ∈ letters) : Asked s c :=
  ⟨letters, (h.after ht).isInfix, hc, h.known⟩

theorem inside_whole (h : Switches .none p r letters on' (.plain ')') r') (hi : Inside s r)
    (ht : After s (['(', '?'] ++ p.text) r) :
    Inside s { r' with options := r'.options.union on' } where
  ahead := (h.inside hi ht).ahead
  ascii ha := by
    rcases Bool.or_eq_true_iff.mp ha with ha | ha
    · exact (h.inside hi ht).ascii ha
    · exact h.asked ht ((h.ascii ha).resolve_left Bool.false_ne_true)
  full hf := by
    rcases Bool.or_eq_true_iff.mp hf with hf | hf
    · exact (h.inside hi ht).full hf
    · exact h.asked ht ((h.full hf).resolve_left Bool.false_ne_true)

end Switches

@[spec] theorem optionOf_spec (p : Piece) (r : Reading) : Takes r (optionOf p) fun o r' =>
    r' = r ∧ ∃ c, p = .plain c ∧ Options.ofLetter? c = some o := by
  mvcgen [optionOf]
  grind

@[spec] theorem optionsOn_spec (fuel : Nat) (on : Options) (p : Piece) (r : Reading) :
    Takes r (optionsOn fuel on p) fun (on', p') r' =>
      ∃ letters, Switches on p r letters on' p' r' := by
  induction fuel generalizing on p r with
  | zero => mvcgen [optionsOn]
  | succ fuel ih =>
    mvcgen [optionsOn, ih]
    -- either way the first piece was the letter of an option
    all_goals
      obtain ⟨rfl, c, rfl, hc⟩ := ‹_ ∧ ∃ c, p = .plain c ∧ _›
      subst_vars
    · exact ⟨_, .one hc ‹_›⟩
    · rintro ⟨letters, hrest⟩
      exact ⟨_, (Switches.one hc ‹_›).trans hrest⟩

@[spec] theorem optionsOff_spec (fuel : Nat) (off : Options) (p : Piece) :
    Reads s (optionsOff fuel off p) := by
  induction fuel generalizing off p with
  | zero => mvcgen [optionsOff]
  | succ fuel ih => mvcgen [optionsOff, ih] <;> grind

@[spec] theorem groupOptions_spec (p : Piece) :
    ReadsAfter s (['(', '?'] ++ p.text) (groupOptions p) := by
  mvcgen [groupOptions] <;> grind [→ Switches.inside, → Switches.inside_whole]

/-! ## Groups -/

@[spec] theorem openGroup_spec (name : Option (List Char)) : Reads s (openGroup name) := by
  mvcgen [openGroup] <;> grind [Inside.same]

@[spec] theorem closeGroup_spec (index : Nat) (width : Width) :
    Reads s (closeGroup index width) := by
  mvcgen [closeGroup]
  grind [Inside.same]

@[spec] theorem namedGroup_spec (name : List Char) : Reads s (namedGroup name) := by
  mvcgen [namedGroup]

@[spec] theorem conditionGroup_spec (name : List Char) : Reads s (conditionGroup name) := by
  mvcgen [conditionGroup]
  grind [Inside.same]

@[spec] theorem lookKind_spec (behind : Bool) (p : Piece) : Reads s (lookKind behind p) := by
  mvcgen [lookKind]

@[spec] theorem groupKind_spec (env : Options) (atStart : Bool) :
    ReadsAfter s ['('] (groupKind env atStart) := by
  mvcgen [groupKind] <;> grind [→ After.pass]

/-- **All parts of a pattern read on in the text**, as deep as they may go. -/
structure Lawful (s : List Char) (fuel : Nat) : Prop where
  /-- alternatives -/
  alternatives (env : Options) (top first : Bool) : Reads s (alternatives fuel env top first)
  /-- items one after the other -/
  sequence (env : Options) (top first : Bool) (items : List Item) :
    Reads s (sequence fuel env top first items)
  /-- a group -/
  group (env : Options) (atStart : Bool) : ReadsAfter s ['('] (group fuel env atStart)

namespace Lawful

variable {fuel : Nat}

theorem alternatives_succ (h : Lawful s fuel) (env : Options) (top first : Bool) :
    Reads s (Pattern.alternatives (fuel + 1) env top first) := by
  obtain ⟨halternatives, hsequence, -⟩ := h
  mvcgen [Pattern.alternatives, halternatives, hsequence] <;> grind

theorem sequence_succ (h : Lawful s fuel) (env : Options) (top first : Bool)
    (items : List Item) : Reads s (Pattern.sequence (fuel + 1) env top first items) := by
  obtain ⟨-, hsequence, hgroup⟩ := h
  mvcgen [Pattern.sequence, hsequence, hgroup] <;> grind [→ Inside.pastLine]

theorem group_succ (h : Lawful s fuel) (env : Options) (atStart : Bool) :
    ReadsAfter s ['('] (Pattern.group (fuel + 1) env atStart) := by
  obtain ⟨halternatives, hsequence, -⟩ := h
  mvcgen [Pattern.group, halternatives, hsequence] <;> grind [Inside.same]

end Lawful

theorem lawful (s : List Char) (fuel : Nat) : Lawful s fuel := by
  induction fuel with
  | zero => constructor <;> intros <;> mvcgen [alternatives, sequence, group]
  | succ fuel ih => exact ⟨ih.alternatives_succ, ih.sequence_succ, ih.group_succ⟩

/-! ## The whole pattern -/

theorem Inside.due_options (h : Inside s r) (hb : r.options.ascii && r.options.full) :
    (Refusal.fault .patternOptions).Due s :=
  have ⟨ha, hf⟩ := Bool.and_eq_true_iff.mp hb
  .options (h.ascii ha) (h.full hf)

theorem whole_spec :
    ⦃fun r => ⌜Inside s r⌝⦄ whole ⦃post⟨fun _ _ => ⌜True⌝, fun e => ⌜e.Due s⌝⟩⦄ := by
  have halternatives (fuel : Nat) (env : Options) (top first : Bool) :
      Reads s (alternatives fuel env top first) := (lawful s fuel).alternatives env top first
  mvcgen [whole, fault_spec, -Spec.throw_MonadExcept, halternatives] <;>
    grind [Inside.same, Inside.due_options]

/-- **A pattern is read without a fault unless its text strains a limit**, with the fault that
stands for the limit. -/
theorem strains_of_parse {names : CharNames} {text : String} {f : Fault}
    (h : parse names text = .error (.fault f)) : Strains text.toList f := by
  have hbegun : Inside text.toList (.begun names text.toList) :=
    ⟨by rw [Reading.begun, textOf_pieces], nofun, nofun⟩
  have hends := triple_iff.mp whole_spec _ hbegun
  rw [parse, StateT.run] at h
  cases hwhole : whole (.begun names text.toList) with
  | ok found =>
    rw [hwhole] at h
    cases h
  | error refusal =>
    rw [hwhole] at h hends
    obtain rfl : refusal = .fault f := Except.error.inj h
    exact hends

/-- Options that exclude each other are a fault, though each is asked for by itself. -/
example (names : CharNames) : parse names "(?a)(?iu)b" = .error (.fault .patternOptions) := by cbv

end ChatFlow.Pattern
