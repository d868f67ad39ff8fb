import ChatFlow.Json.Reader
import ChatFlow.Json.Writer
import ChatFlow.Proofs.Number.Figures
import ChatFlow.Proofs.Results

/-!
# What written JSON consists of

* `Layout.Readable` — the layouts that a reader can pass over;
* `chars_list`, `chars_object`, `itemChars_cons`, `fieldChars_cons` — the text of a value by the
  texts of its parts;
* `Piece`, `Written` — text that is put together of escapes and of characters that stand for
  themselves;
* `written_write` — **whatever is written is such text**;
* `holdsHalf_write` — no half of a surrogate pair is written;
* `nul_notMem_write` — and no zero.
-/

namespace ChatFlow.Json

/-! ## Escapes of code units -/

theorem hexValue?_hexDigit : ∀ n < 16, hexValue? (hexDigit n) = some n := by decide

/-- Four hexadecimal digits are read as the number they write. -/
theorem hex4?_hexDigits {n : Nat} (h : n < 0x10000) (rest : List Char) :
    hex4? (hexDigits 4 n ++ rest) = some (n, rest) := by
  have hvalue : ((n / 16 / 16 / 16 % 16 * 16 + n / 16 / 16 % 16) * 16 + n / 16 % 16) * 16 + n % 16 =
      n := by omega
  simp only [hexDigits, List.nil_append, List.cons_append, hex4?]
  simp only [hexValue?_hexDigit _ (Nat.mod_lt _ (by decide : 16 > 0)), Option.bind_eq_bind,
    Option.bind_some, hvalue]
  rfl

theorem isHigh_eq_false {n : Nat} (h : n < 0xD800) : isHigh n = false := by
  rw [isHigh, decide_eq_false (not_le.mpr h), Bool.false_and]

theorem isLow_eq_false {n : Nat} (h : n < 0xD800) : isLow n = false := by
  have hlow : ¬ 0xDC00 ≤ n := by omega
  rw [isLow, decide_eq_false hlow, Bool.false_and]


/-! ## Layouts -/

/-- Nothing but white space. -/
def Blank (s : List Char) : Prop := ∀ c ∈ s, isSpace c = true

theorem isSpace_iff (c : Char) : isSpace c = true ↔ c = ' ' ∨ c = '\t' ∨ c = '\n' ∨ c = '\r' := by
  simp [isSpace, or_assoc]

/-- **A layout that the reader can pass over**: commas and colons stand apart by blanks only. -/
structure Layout.Readable (layout : Layout) : Prop where
  /-- between two entries -/
  entry : ∃ blanks, Blank blanks ∧ layout.entrySeparator.toList = ',' :: blanks
  /-- between a key and its value -/
  key : ∃ blanks, Blank blanks ∧ layout.keySeparator.toList = ':' :: blanks

theorem Layout.blank_breakAt (layout : Layout) (level : Nat) : Blank (layout.breakAt level) := by
  intro c hc
  unfold Layout.breakAt at hc
  split at hc
  · rcases List.mem_cons.mp hc with rfl | hc
    · rfl
    · rw [(List.mem_replicate.mp hc).2]
      rfl
  · exact absurd hc List.not_mem_nil

/-- What stands between two entries is a comma and blanks. -/
theorem Layout.Readable.separator {layout : Layout} (h : layout.Readable) (level : Nat) :
    ∃ blanks, Blank blanks ∧
      layout.entrySeparator.toList ++ layout.breakAt level = ',' :: blanks := by
  obtain ⟨gap, hgap, hentry⟩ := h.entry
  refine ⟨gap ++ layout.breakAt level, ?_, by rw [hentry, List.cons_append]⟩
  intro c hc
  rcases List.mem_append.mp hc with hc | hc
  · exact hgap c hc
  · exact layout.blank_breakAt level c hc

theorem Layout.readable_stored : Layout.stored.Readable where
  entry := ⟨[], nofun, rfl⟩
  key := ⟨[' '], by simp [Blank, isSpace], rfl⟩

theorem Layout.readable_compact : Layout.compact.Readable where
  entry := ⟨[], nofun, rfl⟩
  key := ⟨[], nofun, rfl⟩

theorem Layout.readable_storedValues : Layout.storedValues.Readable :=
  ⟨readable_stored.entry, readable_stored.key⟩

/-! ## The parts of a text -/

section

variable {layout : Layout} {level : Nat} {s : List Char}

theorem chars_list {items : List Value} (h : chars layout level (.list items) = .ok s) :
    ∃ entries, itemChars layout (level + 1) items = .ok entries ∧
      s = layout.enclose level '[' ']' entries := by
  unfold chars at h
  obtain ⟨entries, hentries, h⟩ := exists_of_bind_ok h
  exact ⟨entries, hentries, (Except.ok.inj h).symm⟩

theorem chars_object {fields : List (String × Value)}
    (h : chars layout level (.object fields) = .ok s) :
    ∃ entries, fieldChars layout (level + 1) fields = .ok entries ∧
      s = layout.enclose level '\x7b' '\x7d' entries := by
  unfold chars at h
  obtain ⟨entries, hentries, h⟩ := exists_of_bind_ok h
  exact ⟨entries, hentries, (Except.ok.inj h).symm⟩

theorem itemChars_cons {v : Value} {rest : List Value} {entries : List (List Char)}
    (h : itemChars layout level (v :: rest) = .ok entries) :
    ∃ first others, chars layout level v = .ok first ∧
      itemChars layout level rest = .ok others ∧ entries = first :: others := by
  unfold itemChars at h
  obtain ⟨first, hfirst, h⟩ := exists_of_bind_ok h
  obtain ⟨others, hothers, h⟩ := exists_of_bind_ok h
  exact ⟨first, others, hfirst, hothers, (Except.ok.inj h).symm⟩

theorem fieldChars_cons {key : String} {v : Value} {rest : List (String × Value)}
    {entries : List (List Char)} (h : fieldChars layout level ((key, v) :: rest) = .ok entries) :
    ∃ first others, chars layout level v = .ok first ∧
      fieldChars layout level rest = .ok others ∧
        entries = (quote key.toList ++ layout.keySeparator.toList ++ first) :: others := by
  unfold fieldChars at h
  obtain ⟨first, hfirst, h⟩ := exists_of_bind_ok h
  obtain ⟨others, hothers, h⟩ := exists_of_bind_ok h
  exact ⟨first, others, hfirst, hothers, (Except.ok.inj h).symm⟩

end

/-! ## Text of pieces -/

/-- A character that stands for itself, between quotes and elsewhere. -/
def IsPlain (c : Char) : Prop := c ≠ '\\' ∧ c ≠ '\x00'

instance : DecidablePred IsPlain := fun c => inferInstanceAs (Decidable (c ≠ '\\' ∧ c ≠ '\x00'))

/-- **A piece of written text.** -/
inductive Piece : List Char → Prop where
  /-- the escape of a letter -/
  | letter {c : Char} (hu : c ≠ 'u') (hzero : c ≠ '\x00') : Piece ['\\', c]
  /-- the escape of a code unit that is no half of a pair -/
  | unit {n : Nat} (h : n < 0xD800) : Piece ('\\' :: 'u' :: hexDigits 4 n)
  /-- a character that stands for itself -/
  | plain {c : Char} (h : IsPlain c) : Piece [c]

/-- Every character is written as one piece. -/
theorem piece_escapeChar (c : Char) : Piece (escapeChar c) := by
  unfold escapeChar
  split_ifs with h₁ h₂ h₃ h₄ h₅ h₆ h₇ h₈
  · exact .letter (by decide) (by decide)
  · exact .letter (by decide) (by decide)
  · exact .letter (by decide) (by decide)
  · exact .letter (by decide) (by decide)
  · exact .letter (by decide) (by decide)
  · exact .letter (by decide) (by decide)
  · exact .letter (by decide) (by decide)
  · exact .unit (by omega)
  · refine .plain ⟨h₂, ?_⟩
    rintro rfl
    exact h₈ (by decide)

/-- **Text that is put together of pieces.** -/
inductive Written : List Char → Prop where
  /-- nothing -/
  | nil : Written []
  /-- a piece, and more -/
  | cons {piece s : List Char} (hpiece : Piece piece) (h : Written s) : Written (piece ++ s)

namespace Written

/-- A character that stands for itself, and more. -/
theorem plain {c : Char} {s : List Char} (hc : IsPlain c) (h : Written s) : Written (c :: s) :=
  cons (.plain hc) h

theorem append {s t : List Char} (hs : Written s) (ht : Written t) : Written (s ++ t) := by
  induction hs with
  | nil => exact ht
  | cons hpiece _ ih =>
    rw [List.append_assoc]
    exact cons hpiece ih

theorem of_plain {s : List Char} (h : ∀ c ∈ s, IsPlain c) : Written s := by
  induction s with
  | nil => exact nil
  | cons c s ih =>
    rw [List.forall_mem_cons] at h
    exact plain h.1 (ih h.2)

theorem quote (s : List Char) : Written (quote s) := by
  have hbody : Written (s.flatMap escapeChar) := by
    induction s with
    | nil => exact nil
    | cons c s ih => exact cons (piece_escapeChar c) ih
  exact (plain (by decide) hbody).append (of_plain (by simp [IsPlain]))

theorem joinWith {separator : List Char} (hseparator : Written separator)
    {pieces : List (List Char)} (h : ∀ piece ∈ pieces, Written piece) :
    Written (joinWith separator pieces) := by
  induction pieces with
  | nil => exact nil
  | cons first others ih =>
    rw [List.forall_mem_cons] at h
    cases others with
    | nil => exact h.1
    | cons second more => exact (h.1.append hseparator).append (ih h.2)

theorem blank {s : List Char} (h : Blank s) : Written s :=
  of_plain fun c hc => by
    rcases (isSpace_iff c).mp (h c hc) with rfl | rfl | rfl | rfl <;> decide

/-- A comma or a colon, with blanks behind it. -/
theorem mark {c : Char} (hc : IsPlain c) {s blanks : List Char} (hblanks : Blank blanks)
    (hs : s = c :: blanks) : Written s := hs ▸ plain hc (blank hblanks)

theorem enclose {layout : Layout} (hlayout : layout.Readable) (level : Nat) {opening closing : Char}
    (hopening : IsPlain opening) (hclosing : IsPlain closing) {entries : List (List Char)}
    (h : ∀ entry ∈ entries, Written entry) :
    Written (layout.enclose level opening closing entries) := by
  obtain ⟨blanks, hblanks, hseparator⟩ := hlayout.separator (level + 1)
  have hgap (level : Nat) : Written (layout.breakAt level) := blank (layout.blank_breakAt level)
  have hlast : Written [closing] := plain hclosing nil
  unfold Layout.enclose
  split
  · exact plain hopening hlast
  · exact (((plain hopening (hgap _)).append
      (joinWith (mark (by decide) hblanks hseparator) h)).append (hgap level)).append hlast

/-- The text of a number has no escapes. -/
theorem number {n : Number} {text : String} (h : numberText n = .ok text) :
    Written text.toList := by
  have hfigures (hall : ∀ c ∈ text.toList, isFigure c = true) : Written text.toList :=
    of_plain fun c hc => by
      constructor <;> rintro rfl <;> exact absurd (hall _ hc) (by decide)
  cases n with
  | int n =>
    rw [numberText, Number.intText?] at h
    split at h
    · obtain rfl := Except.ok.inj h
      exact hfigures (isFigure_intText n)
    · cases h
  | double x =>
    cases x with
    | nan =>
      obtain rfl := Except.ok.inj h
      exact of_plain (by simp [IsPlain])
    | infinity negative =>
      obtain rfl := Except.ok.inj h
      cases negative with
      | true => exact of_plain (by simp [IsPlain])
      | false => exact of_plain (by simp [IsPlain])
    | finite negative m e =>
      obtain rfl := Except.ok.inj h
      exact hfigures (Double.isFigure_text _)

end Written

section

variable {layout : Layout}

mutual

theorem written_chars (hlayout : layout.Readable) {level : Nat} {v : Value} {s : List Char}
    (h : chars layout level v = .ok s) : Written s := by
  cases v with
  | null =>
    obtain rfl := Except.ok.inj h
    exact .of_plain (by simp [IsPlain])
  | bool b =>
    obtain rfl := Except.ok.inj h
    cases b with
    | true => exact .of_plain (by simp [IsPlain])
    | false => exact .of_plain (by simp [IsPlain])
  | number n =>
    rw [chars] at h
    obtain ⟨text, htext, rfl⟩ := exists_of_map_ok h
    exact .number htext
  | text t =>
    obtain rfl := Except.ok.inj h
    exact .quote t.toList
  | bytes data =>
    rw [chars] at h
    split at h
    · obtain rfl := Except.ok.inj h
      exact .quote _
    · cases h
  | list items =>
    obtain ⟨entries, hentries, rfl⟩ := chars_list h
    exact .enclose hlayout level (by decide) (by decide) (written_itemChars hlayout hentries)
  | tuple items =>
    unfold chars at h
    obtain ⟨entries, hentries, h⟩ := exists_of_bind_ok h
    obtain rfl := Except.ok.inj h
    exact .enclose hlayout level (by decide) (by decide) (written_itemChars hlayout hentries)
  | object fields =>
    obtain ⟨entries, hentries, rfl⟩ := chars_object h
    exact .enclose hlayout level (by decide) (by decide) (written_fieldChars hlayout hentries)

theorem written_itemChars (hlayout : layout.Readable) {level : Nat} {items : List Value}
    {entries : List (List Char)} (h : itemChars layout level items = .ok entries) :
    ∀ entry ∈ entries, Written entry := by
  cases items with
  | nil =>
    obtain rfl := Except.ok.inj h
    exact List.forall_mem_nil _
  | cons v rest =>
    obtain ⟨first, others, hfirst, hothers, rfl⟩ := itemChars_cons h
    exact List.forall_mem_cons.mpr
      ⟨written_chars hlayout hfirst, written_itemChars hlayout hothers⟩

theorem written_fieldChars (hlayout : layout.Readable) {level : Nat}
    {fields : List (String × Value)} {entries : List (List Char)}
    (h : fieldChars layout level fields = .ok entries) : ∀ entry ∈ entries, Written entry := by
  cases fields with
  | nil =>
    obtain rfl := Except.ok.inj h
    exact List.forall_mem_nil _
  | cons field rest =>
    obtain ⟨key, v⟩ := field
    obtain ⟨first, others, hfirst, hothers, rfl⟩ := fieldChars_cons h
    obtain ⟨blanks, hblanks, hkey⟩ := hlayout.key
    exact List.forall_mem_cons.mpr
      ⟨((Written.quote _).append (.mark (by decide) hblanks hkey)).append
          (written_chars hlayout hfirst),
        written_fieldChars hlayout hothers⟩

end

/-- **Whatever is written** is text of such pieces. -/
theorem written_write (hlayout : layout.Readable) {v : Value} {content : String}
    (h : write layout v = .ok content) : Written content.toList := by
  obtain ⟨s, hs, rfl⟩ := exists_of_map_ok h
  rw [String.toList_ofList]
  exact written_chars hlayout hs

/-! ## What is not written -/

/-- A digit of an escape stands for itself. -/
theorem isPlain_hexDigit : ∀ n < 16, IsPlain (hexDigit n) := by decide

theorem isPlain_of_mem_hexDigits {c : Char} {width n : Nat} (h : c ∈ hexDigits width n) :
    IsPlain c := by
  induction width generalizing n with
  | zero => exact absurd h List.not_mem_nil
  | succ width ih =>
    rw [hexDigits, List.mem_append, List.mem_singleton] at h
    obtain h | rfl := h
    · exact ih h
    · exact isPlain_hexDigit _ (Nat.mod_lt _ (by decide))

theorem holdsHalf_plain {s : List Char} (h : ∀ c ∈ s, IsPlain c) (rest : List Char) :
    holdsHalf 0 (s ++ rest) = holdsHalf 0 rest := by
  induction s with
  | nil => rfl
  | cons c s ih =>
    rw [List.forall_mem_cons] at h
    have hstep : holdsHalf 0 (c :: (s ++ rest)) = holdsHalf 0 (s ++ rest) := by
      simp [holdsHalf, h.1.1]
    rw [List.cons_append, hstep, ih h.2]

/-- A search for halves passes over the escape of a letter as a whole, even where the letter is a
backslash. -/
theorem holdsHalf_escape {c : Char} (h : c ≠ 'u') (rest : List Char) :
    holdsHalf 0 (['\\', c] ++ rest) = holdsHalf 0 rest := by
  simp [holdsHalf, h]

/-- And over the escape of a code unit that is no half of a pair. -/
theorem holdsHalf_escapeUnit {n : Nat} (h : n < 0xD800) (rest : List Char) :
    holdsHalf 0 ('\\' :: 'u' :: hexDigits 4 n ++ rest) = holdsHalf 0 rest := by
  have hhigh := isHigh_eq_false h
  have hlow := isLow_eq_false h
  have hdigits : holdsHalf 0 (hexDigits 4 n ++ rest) = holdsHalf 0 rest :=
    holdsHalf_plain (fun _ => isPlain_of_mem_hexDigits) rest
  simp only [List.cons_append, holdsHalf, hex4?_hexDigits (show n < 0x10000 by omega), hhigh, hlow,
    Bool.false_and, Bool.false_or, Bool.false_eq_true, if_false, hdigits]

theorem Piece.holdsHalf {piece : List Char} (h : Piece piece) (rest : List Char) :
    Json.holdsHalf 0 (piece ++ rest) = Json.holdsHalf 0 rest := by
  cases h with
  | letter hu _ => exact holdsHalf_escape hu rest
  | unit h => exact holdsHalf_escapeUnit h rest
  | plain h => exact holdsHalf_plain (List.forall_mem_singleton.mpr h) rest

theorem Written.holdsHalf {s : List Char} (h : Written s) : Json.holdsHalf 0 s = false := by
  induction h with
  | nil => rfl
  | cons hpiece _ ih => rw [hpiece.holdsHalf, ih]

theorem Piece.nul_notMem {piece : List Char} (h : Piece piece) : '\x00' ∉ piece := by
  cases h with
  | letter _ hzero => simp [hzero.symm]
  | unit h => simpa using fun hmem => (isPlain_of_mem_hexDigits hmem).2 rfl
  | plain h => simpa using h.2.symm

theorem Written.nul_notMem {s : List Char} (h : Written s) : '\x00' ∉ s := by
  induction h with
  | nil => exact List.not_mem_nil
  | cons hpiece _ ih =>
    rw [List.mem_append, not_or]
    exact ⟨hpiece.nul_notMem, ih⟩

/-- **No half of a surrogate pair is written**, whatever the value. -/
theorem holdsHalf_write (hlayout : layout.Readable) {v : Value} {content : String}
    (h : write layout v = .ok content) : holdsHalf 0 content.toList = false :=
  (written_write hlayout h).holdsHalf

/-- **And no zero.** -/
theorem nul_notMem_write (hlayout : layout.Readable) {v : Value} {content : String}
    (h : write layout v = .ok content) : '\x00' ∉ content.toList :=
  (written_write hlayout h).nul_notMem

end

end ChatFlow.Json
