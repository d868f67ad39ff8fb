import ChatFlow.Proofs.Json.Numbers
import ChatFlow.Proofs.Json.Written
import ChatFlow.Proofs.Tables

/-!
# Reading written JSON

What is written is read back piece by piece, each with the rest of the text behind it.

* `stringBody_text` — texts;
* `Exact` — the values that are not mistaken for others once they are written;
* one equation for each way a step of the reader goes, those for numbers beside the numbers: it is
  opened by these alone;
* `Rereads` — what is read back with so much fuel. More fuel reads back more by one step of the
  reader, so `rereads` holds of any fuel;
* `readChars_write` — **written JSON is read back as the value it was written of**.
-/

namespace ChatFlow.Json

/-! ## Strings -/

theorem escapedUnit?_hexDigits {n : Nat} (h : n < 0xD800) (rest : List Char) :
    escapedUnit? (hexDigits 4 n ++ rest) = some (Char.ofNat n, rest) := by
  simp [escapedUnit?, hex4?_hexDigits (show n < 0x10000 by omega), unitChar, isHigh_eq_false h,
    isLow_eq_false h]

/-- **The escape of a character is read as the character.** -/
theorem stringBody_escapeChar (c : Char) (fuel : Nat) (rest done : List Char) :
    stringBody (fuel + 1) (escapeChar c ++ rest) done = stringBody fuel rest (c :: done) := by
  have hchar {n : Nat} (h : c.toNat = n) : c = Char.ofNat n := by rw [← h, Char.ofNat_toNat]
  unfold escapeChar
  split_ifs with h₁ h₂ h₃ h₄ h₅ h₆ h₇ h₈
  · rw [h₁]
    rfl
  · rw [h₂]
    rfl
  · rw [h₃]
    rfl
  · rw [h₄]
    rfl
  · rw [h₅]
    rfl
  · rw [hchar h₆]
    rfl
  · rw [hchar h₇]
    rfl
  · have hunit := escapedUnit?_hexDigits (show c.toNat < 0xD800 by omega) rest
    rw [Char.ofNat_toNat] at hunit
    simp only [List.cons_append, stringBody, hunit]
  · simp [stringBody, h₂, h₈]

theorem escapeChar_ne_nil (c : Char) : escapeChar c ≠ [] := by
  unfold escapeChar
  split_ifs <;> exact List.cons_ne_nil _ _

/-- **A quoted string is read as it was.** -/
theorem stringBody_quote (s rest done : List Char) {fuel : Nat}
    (h : (s.flatMap escapeChar).length < fuel) :
    stringBody fuel (s.flatMap escapeChar ++ '"' :: rest) done =
      .ok (String.ofList (done.reverse ++ s), rest) := by
  induction s generalizing fuel done with
  | nil =>
    obtain ⟨fuel, rfl⟩ := Nat.exists_eq_add_of_lt h
    simp [stringBody]
  | cons c s ih =>
    have hpos := List.length_pos_iff.mpr (escapeChar_ne_nil c)
    rw [List.flatMap_cons, List.length_append] at h
    obtain ⟨fuel, rfl⟩ : ∃ k, fuel = k + 1 := ⟨fuel - 1, by omega⟩
    rw [List.flatMap_cons, List.append_assoc, stringBody_escapeChar, ih (c :: done) (by omega),
      List.reverse_cons, List.append_assoc, List.singleton_append]

/-- So is a text between quotes, with the fuel that the reader gives it. -/
theorem stringBody_text (text : String) (rest : List Char) :
    stringBody ((text.toList.flatMap escapeChar ++ '"' :: rest).length + 1)
      (text.toList.flatMap escapeChar ++ '"' :: rest) [] = .ok (text, rest) := by
  rw [stringBody_quote text.toList rest [] (by rw [List.length_append]; omega), List.reverse_nil,
    List.nil_append, String.ofList_toList]

/-! ## Blanks -/

theorem isSpace_digit {c : Char} (h : c.isDigit = true) : isSpace c = false := by
  rw [Bool.eq_false_iff, Ne, isSpace_iff]
  rintro (rfl | rfl | rfl | rfl) <;> exact absurd h (by decide)

theorem ne_bracket {c : Char} (h : c.isDigit = true) : c ≠ ']' := by
  rintro rfl
  exact absurd h (by decide)

theorem skip_blank {blanks : List Char} (h : Blank blanks) (s : List Char) :
    skip (blanks ++ s) = skip s := by
  unfold skip
  rw [List.dropWhile_append_of_pos h]

theorem skip_cons {c : Char} (h : isSpace c = false) (s : List Char) : skip (c :: s) = c :: s := by
  rw [skip, List.dropWhile_cons_of_neg (by rw [h]; exact Bool.false_ne_true)]

/-- Blanks close an integer, and so does what stands behind them. -/
theorem Closes.blank {blanks rest : List Char} (h : Blank blanks) (hrest : Closes rest) :
    Closes (blanks ++ rest) := by
  cases blanks with
  | nil => exact hrest
  | cons b blanks =>
    intro c hc
    obtain rfl : b = c := by simpa using hc
    rcases (isSpace_iff b).mp (h b List.mem_cons_self) with rfl | rfl | rfl | rfl <;> decide

/-! ## Values -/

mutual

/-- **Values that written JSON tells apart from all others**: doubles as rounding leaves them, no
bytes, lists only, and maps with distinct keys. -/
def Exact : Value → Prop
  | .null => True
  | .bool _ => True
  | .number (.int _) => True
  | .number (.double x) => x.Canonical
  | .text _ => True
  | .bytes _ => False
  | .list items => ItemsExact items
  | .tuple _ => False
  | .object fields => (Table.keys fields).Nodup ∧ FieldsExact fields

/-- Such values all along a list. -/
def ItemsExact : List Value → Prop
  | [] => True
  | v :: rest => Exact v ∧ ItemsExact rest

/-- Such values all along the entries of a map. -/
def FieldsExact : List (String × Value) → Prop
  | [] => True
  | (_, v) :: rest => Exact v ∧ FieldsExact rest

end

section

variable {layout : Layout} {level : Nat} {s : List Char}

/-- An integer is written in digits, within the limit. -/
theorem chars_int {n : Int} (h : chars layout level (.int n) = .ok s) :
    (natDigits n.natAbs).length ≤ Number.digitLimit ∧
      s = if n < 0 then '-' :: natDigits n.natAbs else natDigits n.natAbs := by
  rw [Value.int, chars] at h
  obtain ⟨text, htext, rfl⟩ := exists_of_map_ok h
  have hlength {width : Nat} (hwidth : 0 < width) (h : n.natAbs < Nat.pow 10 width) :
      (natDigits n.natAbs).length ≤ width := (length_natDigits_le hwidth).mpr h
  rw [numberText, Number.intText?] at htext
  split at htext
  · next hlimit =>
    obtain rfl := Except.ok.inj htext
    refine ⟨hlength (by decide) hlimit, ?_⟩
    unfold intText
    split <;> rw [String.toList_ofList]
  · cases htext

/-- A finite double is written in digits, that a sign may precede. -/
theorem chars_finite {negative : Bool} {m : Nat} {e : Int}
    (hx : (Double.finite negative m e).Canonical)
    (h : chars layout level (.double (.finite negative m e)) = .ok s) : ∃ c t,
      s = (if negative then '-' :: c :: t else c :: t) ∧ c.isDigit = true ∧ ∀ rest, Closes rest →
        number negative (c :: (t ++ rest)) = .ok (.double (.finite negative m e), rest) := by
  obtain ⟨body, htext, hread⟩ := number_finiteText hx
  obtain ⟨c, t, hcons, hdigit⟩ := head_of_number (hread [] nofun)
  obtain rfl : body = c :: t := by simpa using hcons
  refine ⟨c, t, ?_, hdigit, hread⟩
  rw [Value.double, chars] at h
  obtain ⟨text, hnumber, rfl⟩ := exists_of_map_ok h
  obtain rfl := Except.ok.inj hnumber
  rw [← htext, Double.text, String.toList_ofList]

/-- Any other double is written as a word. -/
theorem chars_infinity {negative : Bool}
    (h : chars layout level (.double (.infinity negative)) = .ok s) :
    s = (if negative then "-Infinity" else "Infinity").toList := (Except.ok.inj h).symm

/-- Written text begins with what is neither blank nor a closing bracket. -/
theorem chars_head {v : Value} (hv : Exact v) (h : chars layout level v = .ok s) :
    ∃ c t, s = c :: t ∧ isSpace c = false ∧ c ≠ ']' := by
  have henclose (opening closing : Char) (entries : List (List Char)) :
      ∃ t, layout.enclose level opening closing entries = opening :: t := by
    unfold Layout.enclose
    split
    · exact ⟨_, rfl⟩
    · exact ⟨_, rfl⟩
  cases v with
  | null =>
    obtain rfl := Except.ok.inj h
    exact ⟨'n', _, rfl, rfl, by decide⟩
  | bool b =>
    obtain rfl := Except.ok.inj h
    cases b with
    | true => exact ⟨'t', _, rfl, rfl, by decide⟩
    | false => exact ⟨'f', _, rfl, rfl, by decide⟩
  | number n =>
    cases n with
    | int n =>
      obtain ⟨-, rfl⟩ := chars_int h
      split
      · exact ⟨'-', _, rfl, rfl, by decide⟩
      · obtain ⟨c, t, hcons⟩ := List.exists_cons_of_ne_nil (natDigits_ne_nil n.natAbs)
        have hmem : c ∈ natDigits n.natAbs := hcons ▸ List.mem_cons_self
        have hdigit := isDigit_of_mem_natDigits hmem
        exact ⟨c, t, hcons, isSpace_digit hdigit, ne_bracket hdigit⟩
    | double x =>
      cases x with
      | nan =>
        obtain rfl := Except.ok.inj h
        exact ⟨'N', _, rfl, rfl, by decide⟩
      | infinity negative =>
        obtain rfl := chars_infinity h
        cases negative with
        | true => exact ⟨'-', _, rfl, rfl, by decide⟩
        | false => exact ⟨'I', _, rfl, rfl, by decide⟩
      | finite negative m e =>
        obtain ⟨c, t, rfl, hdigit, -⟩ := chars_finite hv h
        split
        · exact ⟨'-', _, rfl, rfl, by decide⟩
        · exact ⟨c, t, rfl, isSpace_digit hdigit, ne_bracket hdigit⟩
  | text t =>
    obtain rfl := Except.ok.inj h
    exact ⟨'"', _, rfl, rfl, by decide⟩
  | bytes data => exact absurd hv id
  | list items =>
    obtain ⟨entries, -, rfl⟩ := chars_list h
    obtain ⟨t, ht⟩ := henclose '[' ']' entries
    exact ⟨'[', t, ht, rfl, by decide⟩
  | tuple items => exact absurd hv id
  | object fields =>
    obtain ⟨entries, -, rfl⟩ := chars_object h
    obtain ⟨t, ht⟩ := henclose '\x7b' '\x7d' entries
    exact ⟨'\x7b', t, ht, rfl, by decide⟩

theorem joinWith_cons (separator first : List Char) (others : List (List Char)) :
    ∃ t, joinWith separator (first :: others) = first ++ t := by
  cases others with
  | nil => exact ⟨[], (List.append_nil first).symm⟩
  | cons second more => exact ⟨_, List.append_assoc first _ _⟩

theorem itemChars_head {items : List Value} {entries : List (List Char)} (hne : items ≠ [])
    (hitems : ItemsExact items) (h : itemChars layout level items = .ok entries)
    (separator : List Char) :
    ∃ c t, joinWith separator entries = c :: t ∧ isSpace c = false ∧ c ≠ ']' := by
  obtain ⟨v, rest, rfl⟩ := List.exists_cons_of_ne_nil hne
  obtain ⟨first, others, hfirst, -, rfl⟩ := itemChars_cons h
  obtain ⟨c, t, rfl, hspace, hbracket⟩ := chars_head hitems.1 hfirst
  obtain ⟨u, hu⟩ := joinWith_cons separator (c :: t) others
  exact ⟨c, t ++ u, hu, hspace, hbracket⟩

theorem fieldChars_head {fields : List (String × Value)} {entries : List (List Char)}
    (hne : fields ≠ []) (h : fieldChars layout level fields = .ok entries)
    (separator : List Char) : ∃ t, joinWith separator entries = '"' :: t := by
  obtain ⟨⟨key, v⟩, rest, rfl⟩ := List.exists_cons_of_ne_nil hne
  obtain ⟨first, others, -, -, rfl⟩ := fieldChars_cons h
  obtain ⟨u, hu⟩ := joinWith_cons separator
    (quote key.toList ++ layout.keySeparator.toList ++ first) others
  exact ⟨_, hu⟩

end

/-! ## Steps of the reader -/

theorem wordValue_null (rest : List Char) :
    wordValue ("null".toList ++ rest) = .ok (.null, rest) := rfl

theorem wordValue_bool (b : Bool) (rest : List Char) :
    wordValue ((if b then "true" else "false").toList ++ rest) = .ok (.bool b, rest) := by
  cases b with
  | true => rfl
  | false => rfl

section

variable {fuel : Nat} {s t u w x rest : List Char} {v : Value} {key : String}

theorem value_word {c : Char} (hdigit : isAsciiDigit c = false) (hc : c ∉ ['"', '[', '\x7b', '-']) :
    value (fuel + 1) (c :: t) = wordValue (c :: t) := by
  simp only [List.mem_cons, List.not_mem_nil, or_false, not_or] at hc
  simp [value, hc, hdigit]

theorem value_minus_word {c : Char} (h : isAsciiDigit c = false) :
    value (fuel + 1) ('-' :: c :: t) = wordValue ('-' :: c :: t) := by
  simp [value, h]

theorem value_quote (h : stringBody (s.length + 1) s [] = .ok (key, rest)) :
    value (fuel + 1) ('"' :: s) = .ok (.text key, rest) := by
  simp [value, h]

theorem value_list {items : List Value} {c : Char} (hs : skip s = c :: t) (hc : c ≠ ']')
    (h : Json.items fuel (c :: t) = .ok (items, rest)) :
    value (fuel + 1) ('[' :: s) = .ok (.list items, rest) := by
  simp [value, hs, hc, h]

theorem value_object {fields : List (String × Value)} (hs : skip s = '"' :: t)
    (h : members fuel ('"' :: t) = .ok (fields, rest)) :
    value (fuel + 1) ('\x7b' :: s) = .ok (.object (Table.ofEntries fields), rest) := by
  simp [value, hs, h]

theorem items_last (hfirst : value fuel s = .ok (v, t)) (ht : skip t = ']' :: rest) :
    items (fuel + 1) s = .ok ([v], rest) := by
  simp [items, hfirst, bind, Except.bind, ht, pure, Except.pure]

theorem items_more {vs : List Value} (hfirst : value fuel s = .ok (v, t)) (ht : skip t = ',' :: u)
    (hothers : items fuel (skip u) = .ok (vs, rest)) :
    items (fuel + 1) s = .ok (v :: vs, rest) := by
  simp [items, hfirst, bind, Except.bind, ht, hothers, pure, Except.pure]

theorem members_last (hkey : stringBody (s.length + 1) s [] = .ok (key, t)) (ht : skip t = ':' :: u)
    (hfirst : value fuel (skip u) = .ok (v, w)) (hw : skip w = '\x7d' :: rest) :
    members (fuel + 1) ('"' :: s) = .ok ([(key, v)], rest) := by
  simp [members, hkey, bind, Except.bind, ht, hfirst, hw, pure, Except.pure]

theorem members_more {fields : List (String × Value)}
    (hkey : stringBody (s.length + 1) s [] = .ok (key, t)) (ht : skip t = ':' :: u)
    (hfirst : value fuel (skip u) = .ok (v, w)) (hw : skip w = ',' :: x)
    (hothers : members fuel (skip x) = .ok (fields, rest)) :
    members (fuel + 1) ('"' :: s) = .ok ((key, v) :: fields, rest) := by
  simp [members, hkey, bind, Except.bind, ht, hfirst, hw, hothers, pure, Except.pure]

end

/-! ## Reading back -/

/-- **What is read back with so much fuel**: a value from its text, items and members from their
texts with commas and blanks between them and a closing bracket behind. -/
structure Rereads (layout : Layout) (fuel : Nat) : Prop where
  /-- a value -/
  one {v : Value} {level : Nat} {s rest : List Char} (hv : Exact v)
    (hs : chars layout level v = .ok s) (hfuel : s.length ≤ fuel) (hrest : Closes rest) :
    value fuel (s ++ rest) = .ok (v, rest)
  /-- the items of a list -/
  many {vs : List Value} {level : Nat} {entries : List (List Char)}
    {blanks closing rest : List Char} (hne : vs ≠ []) (hvs : ItemsExact vs)
    (hentries : itemChars layout level vs = .ok entries) (hblanks : Blank blanks)
    (hclosing : Blank closing) (hfuel : (joinWith (',' :: blanks) entries).length < fuel) :
    items fuel (joinWith (',' :: blanks) entries ++ (closing ++ ']' :: rest)) = .ok (vs, rest)
  /-- the members of a map -/
  named {fields : List (String × Value)} {level : Nat} {entries : List (List Char)}
    {blanks closing rest : List Char} (hne : fields ≠ []) (hfields : FieldsExact fields)
    (hentries : fieldChars layout level fields = .ok entries)
    (hblanks : Blank blanks) (hclosing : Blank closing)
    (hfuel : (joinWith (',' :: blanks) entries).length < fuel) :
    members fuel (joinWith (',' :: blanks) entries ++ (closing ++ '\x7d' :: rest)) =
      .ok (fields, rest)

section

variable {layout : Layout} {fuel level : Nat} {entries : List (List Char)}
  {blanks closing rest : List Char}

theorem skip_comma : skip (',' :: rest) = ',' :: rest := skip_cons rfl rest

theorem closes_comma : Closes (',' :: rest) := by
  intro c hc
  obtain rfl : ',' = c := by simpa using hc
  decide

section

variable (hclosing : Blank closing) {bracket : Char} (hbracket : bracket = ']' ∨ bracket = '\x7d')

include hclosing hbracket

theorem skip_closing : skip (closing ++ bracket :: rest) = bracket :: rest := by
  rw [skip_blank hclosing, skip_cons]
  rcases hbracket with rfl | rfl <;> rfl

theorem closes_closing : Closes (closing ++ bracket :: rest) := by
  refine Closes.blank hclosing ?_
  intro c hc
  obtain rfl : bracket = c := by simpa using hc
  rcases hbracket with rfl | rfl <;> decide

end

/-- An integer is read from its digits. -/
theorem value_int {n : Int} {s : List Char} (hs : chars layout level (.int n) = .ok s)
    (hrest : Closes rest) : value (fuel + 1) (s ++ rest) = .ok (.int n, rest) := by
  obtain ⟨hlimit, rfl⟩ := chars_int hs
  obtain ⟨c, t, hcons⟩ := List.exists_cons_of_ne_nil (natDigits_ne_nil n.natAbs)
  have hmem : c ∈ natDigits n.natAbs := hcons ▸ List.mem_cons_self
  have hdigit := isDigit_of_mem_natDigits hmem
  have hnumber (negative : Bool) := number_natDigits negative hlimit hrest
  rw [hcons, List.cons_append] at hnumber
  split
  · have hvalue : -(n.natAbs : Int) = n := by omega
    rw [hcons, List.cons_append, List.cons_append, value_minus hdigit, hnumber, if_pos rfl, hvalue]
  · have hvalue : (n.natAbs : Int) = n := by omega
    rw [hcons, List.cons_append, value_digit hdigit, hnumber, if_neg Bool.false_ne_true, hvalue]

/-- A double is read from its text. -/
theorem value_double {x : Double} {s : List Char} (hx : x.Canonical)
    (hs : chars layout level (.double x) = .ok s) (hrest : Closes rest) :
    value (fuel + 1) (s ++ rest) = .ok (.double x, rest) := by
  cases x with
  | nan =>
    obtain rfl := Except.ok.inj hs
    exact (value_word rfl (by decide)).trans rfl
  | infinity negative =>
    obtain rfl := chars_infinity hs
    cases negative with
    | true => exact (value_minus_word rfl).trans rfl
    | false => exact (value_word rfl (by decide)).trans rfl
  | finite negative m e =>
    obtain ⟨c, t, rfl, hdigit, hread⟩ := chars_finite hx hs
    cases negative with
    | true =>
      rw [if_pos rfl, List.cons_append, List.cons_append, value_minus hdigit, hread rest hrest]
    | false =>
      rw [if_neg Bool.false_ne_true, List.cons_append, value_digit hdigit, hread rest hrest]

/-- Some entries are enclosed with blanks and commas between them. -/
theorem enclose_eq
    (hblanks : layout.entrySeparator.toList ++ layout.breakAt (level + 1) = ',' :: blanks)
    (hne : entries ≠ []) (opening bracket : Char) : layout.enclose level opening bracket entries =
      opening :: (layout.breakAt (level + 1) ++
        (joinWith (',' :: blanks) entries ++ (layout.breakAt level ++ [bracket]))) := by
  rw [Layout.enclose, if_neg (by simpa using hne), hblanks]
  simp

namespace Rereads

variable (h : Rereads layout fuel)

include h

/-- Items are read one after the other. -/
theorem many_succ {vs : List Value} (hne : vs ≠ []) (hvs : ItemsExact vs)
    (hentries : itemChars layout level vs = .ok entries) (hblanks : Blank blanks)
    (hclosing : Blank closing) (hfuel : (joinWith (',' :: blanks) entries).length < fuel + 1) :
    items (fuel + 1) (joinWith (',' :: blanks) entries ++ (closing ++ ']' :: rest)) =
      .ok (vs, rest) := by
  obtain ⟨v, vs, rfl⟩ := List.exists_cons_of_ne_nil hne
  obtain ⟨first, others, hfirst, hothers, rfl⟩ := itemChars_cons hentries
  -- behind an item there is a comma, or the bracket behind the last one
  cases vs with
  | nil =>
    obtain rfl := Except.ok.inj hothers
    rw [joinWith] at hfuel ⊢
    exact items_last (h.one hvs.1 hfirst (by omega) (closes_closing hclosing (.inl rfl)))
      (skip_closing hclosing (.inl rfl))
  | cons w ws =>
    obtain ⟨c, t, hhead, hspace, -⟩ :=
      itemChars_head (List.cons_ne_nil w ws) hvs.2 hothers (',' :: blanks)
    have hskip (behind : List Char) : skip (blanks ++ (joinWith (',' :: blanks) others ++ behind)) =
        joinWith (',' :: blanks) others ++ behind := by
      rw [skip_blank hblanks, hhead, List.cons_append, skip_cons hspace]
    obtain ⟨second, more, rfl⟩ : ∃ second more, others = second :: more :=
      List.exists_cons_of_ne_nil (by rintro rfl; exact absurd hhead nofun)
    rw [joinWith] at hfuel ⊢
    simp only [List.length_append, List.length_cons] at hfuel
    simp only [List.append_assoc, List.cons_append]
    refine items_more (h.one hvs.1 hfirst (by omega) closes_comma) skip_comma ?_
    rw [hskip]
    exact h.many (List.cons_ne_nil w ws) hvs.2 hothers hblanks hclosing (by omega)

/-- Members are read one after the other. -/
theorem named_succ (hlayout : layout.Readable) {fields : List (String × Value)} (hne : fields ≠ [])
    (hfields : FieldsExact fields) (hentries : fieldChars layout level fields = .ok entries)
    (hblanks : Blank blanks) (hclosing : Blank closing)
    (hfuel : (joinWith (',' :: blanks) entries).length < fuel + 1) :
    members (fuel + 1) (joinWith (',' :: blanks) entries ++ (closing ++ '\x7d' :: rest)) =
      .ok (fields, rest) := by
  obtain ⟨⟨key, v⟩, fields, rfl⟩ := List.exists_cons_of_ne_nil hne
  obtain ⟨first, others, hfirst, hothers, rfl⟩ := fieldChars_cons hentries
  obtain ⟨gap, hgap, hkey⟩ := hlayout.key
  obtain ⟨c, t, hhead, hspace, -⟩ := chars_head hfields.1 hfirst
  have hcolon (behind : List Char) : skip (':' :: behind) = ':' :: behind := skip_cons rfl behind
  have hvalue (behind : List Char) (hlength : first.length ≤ fuel) (hbehind : Closes behind) :
      value fuel (skip (gap ++ (first ++ behind))) = .ok (v, behind) := by
    have hskip : skip (gap ++ (first ++ behind)) = first ++ behind := by
      rw [skip_blank hgap, hhead, List.cons_append, skip_cons hspace]
    rw [hskip]
    exact h.one hfields.1 hfirst hlength hbehind
  cases fields with
  | nil =>
    obtain rfl := Except.ok.inj hothers
    rw [joinWith] at hfuel ⊢
    simp only [quote, hkey, List.length_append, List.length_cons] at hfuel
    simp only [quote, hkey, List.append_assoc, List.cons_append, List.nil_append]
    exact members_last (stringBody_text key _) (hcolon _)
      (hvalue _ (by omega) (closes_closing hclosing (.inr rfl))) (skip_closing hclosing (.inr rfl))
  | cons field fields =>
    obtain ⟨t, hhead⟩ := fieldChars_head (List.cons_ne_nil field fields) hothers (',' :: blanks)
    have hskip (behind : List Char) : skip (blanks ++ (joinWith (',' :: blanks) others ++ behind)) =
        joinWith (',' :: blanks) others ++ behind := by
      rw [skip_blank hblanks, hhead, List.cons_append, skip_cons rfl]
    obtain ⟨second, more, rfl⟩ : ∃ second more, others = second :: more :=
      List.exists_cons_of_ne_nil (by rintro rfl; exact absurd hhead nofun)
    rw [joinWith] at hfuel ⊢
    simp only [quote, hkey, List.length_append, List.length_cons] at hfuel
    simp only [quote, hkey, List.append_assoc, List.cons_append, List.nil_append]
    refine members_more (stringBody_text key _) (hcolon _) (hvalue _ (by omega) closes_comma)
      skip_comma ?_
    rw [hskip]
    exact h.named (List.cons_ne_nil field fields) hfields.2 hothers hblanks hclosing (by omega)

/-- A list is read, empty or not. -/
theorem list_succ (hlayout : layout.Readable) {vs : List Value} {s : List Char}
    (hvs : ItemsExact vs) (hs : chars layout level (.list vs) = .ok s)
    (hfuel : s.length ≤ fuel + 1) : value (fuel + 1) (s ++ rest) = .ok (.list vs, rest) := by
  obtain ⟨blanks, hblanks, hseparator⟩ := hlayout.separator (level + 1)
  obtain ⟨entries, hentries, rfl⟩ := chars_list hs
  rcases eq_or_ne vs [] with rfl | hne
  · obtain rfl := Except.ok.inj hentries
    rfl
  · obtain ⟨c, t, hhead, hspace, hbracket⟩ := itemChars_head hne hvs hentries (',' :: blanks)
    have hsome : entries ≠ [] := by
      rintro rfl
      exact absurd hhead nofun
    rw [enclose_eq hseparator hsome] at hfuel ⊢
    simp only [List.length_cons, List.length_append] at hfuel
    have hread : items fuel (joinWith (',' :: blanks) entries ++
        (layout.breakAt level ++ ']' :: rest)) = .ok (vs, rest) :=
      h.many hne hvs hentries hblanks (layout.blank_breakAt level) (by omega)
    simp only [List.cons_append, List.append_assoc, List.nil_append]
    rw [hhead, List.cons_append] at hread ⊢
    refine value_list ?_ hbracket hread
    rw [skip_blank (layout.blank_breakAt _), skip_cons hspace]

/-- A map is read, empty or not. -/
theorem object_succ (hlayout : layout.Readable) {fields : List (String × Value)} {s : List Char}
    (hkeys : (Table.keys fields).Nodup) (hfields : FieldsExact fields)
    (hs : chars layout level (.object fields) = .ok s) (hfuel : s.length ≤ fuel + 1) :
    value (fuel + 1) (s ++ rest) = .ok (.object fields, rest) := by
  obtain ⟨blanks, hblanks, hseparator⟩ := hlayout.separator (level + 1)
  obtain ⟨entries, hentries, rfl⟩ := chars_object hs
  rcases eq_or_ne fields [] with rfl | hne
  · obtain rfl := Except.ok.inj hentries
    rfl
  · obtain ⟨t, hhead⟩ := fieldChars_head hne hentries (',' :: blanks)
    have hsome : entries ≠ [] := by
      rintro rfl
      exact absurd hhead nofun
    rw [enclose_eq hseparator hsome] at hfuel ⊢
    simp only [List.length_cons, List.length_append] at hfuel
    have hread : members fuel (joinWith (',' :: blanks) entries ++
        (layout.breakAt level ++ '\x7d' :: rest)) = .ok (fields, rest) :=
      h.named hne hfields hentries hblanks (layout.blank_breakAt level) (by omega)
    simp only [List.cons_append, List.append_assoc, List.nil_append]
    rw [hhead, List.cons_append] at hread ⊢
    -- the reader enters members one by one, which changes nothing where keys are distinct
    rw [← Table.ofEntries_eq hkeys]
    refine value_object ?_ hread
    rw [skip_blank (layout.blank_breakAt _), skip_cons rfl]

/-- A value is read, of whatever kind it is. -/
theorem one_succ (hlayout : layout.Readable) {v : Value} {s : List Char} (hv : Exact v)
    (hs : chars layout level v = .ok s) (hfuel : s.length ≤ fuel + 1) (hrest : Closes rest) :
    value (fuel + 1) (s ++ rest) = .ok (v, rest) := by
  cases v with
  | null =>
    obtain rfl := Except.ok.inj hs
    exact (value_word rfl (by decide)).trans (wordValue_null rest)
  | bool b =>
    obtain rfl := Except.ok.inj hs
    have hword := wordValue_bool b rest
    cases b with
    | true => exact (value_word rfl (by decide)).trans hword
    | false => exact (value_word rfl (by decide)).trans hword
  | number n =>
    cases n with
    | int n => exact value_int hs hrest
    | double x => exact value_double hv hs hrest
  | text t =>
    obtain rfl := Except.ok.inj hs
    rw [quote, List.append_assoc, List.cons_append]
    exact value_quote (stringBody_text t rest)
  | bytes data => exact absurd hv id
  | list items => exact h.list_succ hlayout hv hs hfuel
  | tuple items => exact absurd hv id
  | object fields => exact h.object_succ hlayout hv.1 hv.2 hs hfuel

end Rereads

/-- **The reader reads back whatever its fuel suffices for.** -/
theorem rereads (hlayout : layout.Readable) (fuel : Nat) : Rereads layout fuel := by
  induction fuel with
  | zero =>
    refine ⟨fun hv hs hfuel _ => ?_, fun _ _ _ _ _ hfuel => ?_, fun _ _ _ _ _ hfuel => ?_⟩
    · obtain ⟨c, t, rfl, -⟩ := chars_head hv hs
      exact absurd hfuel (Nat.not_succ_le_zero _)
    · exact absurd hfuel (Nat.not_lt_zero _)
    · exact absurd hfuel (Nat.not_lt_zero _)
  | succ fuel ih => exact ⟨ih.one_succ hlayout, ih.many_succ, ih.named_succ hlayout⟩

/-- **Written JSON is read back as the value it was written of.** -/
theorem readChars_write (hlayout : layout.Readable) {v : Value} (hv : Exact v) {content : String}
    (h : write layout v = .ok content) : readChars content.toList = .ok v := by
  obtain ⟨s, hs, rfl⟩ := exists_of_map_ok h
  obtain ⟨c, t, hcons, hspace, -⟩ := chars_head hv hs
  have hread : value (s.length + 1) (s ++ []) = .ok (v, []) :=
    (rereads hlayout (s.length + 1)).one hv hs (Nat.le_succ _) nofun
  rw [List.append_nil] at hread
  have hskip : skip s = s := by rw [hcons, skip_cons hspace]
  have hhalf := holdsHalf_write hlayout h
  rw [String.toList_ofList] at hhalf ⊢
  rw [readChars, hskip, hread]
  exact if_neg (hhalf ▸ Bool.false_ne_true)

end

end ChatFlow.Json
