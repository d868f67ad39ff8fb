import ChatFlow.Disk.Document
import ChatFlow.Proofs.Json.Rereading
import ChatFlow.Proofs.Text.Utf8
import ChatFlow.Value.Loose
import ChatFlow.Value.Plain
import Mathlib.Data.List.TakeWhile

/-!
# Documents

What documents can hold, and what files with documents are read as.

* `Exact.insert`, `Exact.erase`, `Exact.get?` — maps of exact values, written to and read;
* `Storable` — what a document can hold. It has a written form (`Storable.exists_write`) that tells
  it apart (`Storable.exact`), and `storable_of_shown` — **whatever is read is of this kind**;
* `Storable.plain`, `Storable.plain_eq` — the plain form of a document is a document, and the
  document itself where its numbers are finite;
* `Disk.readDocument_of_read` — **a file with the written form of an exact value is read as it**.
-/

namespace ChatFlow

namespace Json

/-! ## Maps -/

theorem fieldsExact_iff {fields : List (String × Value)} :
    FieldsExact fields ↔ ∀ entry ∈ fields, Exact entry.2 := by
  induction fields with
  | nil => simp [FieldsExact]
  | cons entry rest ih =>
    obtain ⟨key, v⟩ := entry
    rw [FieldsExact, ih]
    simp

theorem itemsExact_iff {items : List Value} : ItemsExact items ↔ ∀ v ∈ items, Exact v := by
  induction items with
  | nil => simp [ItemsExact]
  | cons v rest ih =>
    rw [ItemsExact, ih]
    simp

theorem exact_object_iff {fields : Table Value} :
    Exact (.object fields) ↔ fields.keys.Nodup ∧ ∀ entry ∈ fields, Exact entry.2 := by
  rw [Exact, fieldsExact_iff]

theorem exact_empty : Exact (.object []) := ⟨List.nodup_nil, trivial⟩

section

variable {fields : Table Value} (h : Exact (.object fields))

include h

theorem Exact.insert (key : String) {v : Value} (hv : Exact v) :
    Exact (.object (fields.insert key v)) := by
  rw [exact_object_iff] at h ⊢
  refine ⟨Table.keys_nodup_insert h.1 key v, fun entry hentry => ?_⟩
  rcases Table.mem_of_mem_insert hentry with rfl | hold
  · exact hv
  · exact h.2 entry hold

theorem Exact.erase (key : String) : Exact (.object (fields.erase key)) := by
  rw [exact_object_iff] at h ⊢
  exact ⟨Table.keys_nodup_erase h.1 key,
    fun entry hentry => h.2 entry (Table.mem_of_mem_erase hentry)⟩

theorem Exact.get? {key : String} {v : Value} (hv : fields.get? key = some v) : Exact v := by
  rw [exact_object_iff] at h
  exact h.2 (key, v) (Table.mem_of_get? hv)

end

/-! ## What documents can hold -/

/-- **Values that a document can hold**: numbers of a kind, text, lists, and maps with distinct
keys. -/
inductive Storable (kind : Number → Prop) : Value → Prop where
  /-- nothing -/
  | null : Storable kind .null
  /-- a truth value -/
  | bool (b : Bool) : Storable kind (.bool b)
  /-- a number of the kind -/
  | number {n : Number} (h : kind n) : Storable kind (.number n)
  /-- text -/
  | text (s : String) : Storable kind (.text s)
  /-- a list -/
  | list {items : List Value} (h : ∀ v ∈ items, Storable kind v) : Storable kind (.list items)
  /-- a map -/
  | object {fields : Table Value} (hkeys : fields.keys.Nodup)
    (h : ∀ entry ∈ fields, Storable kind entry.2) : Storable kind (.object fields)

end Json

/-- **A number that can be written** and is read as it was. -/
def Number.Writable : Number → Prop
  | .int n => n.natAbs < Nat.pow 10 digitLimit
  | .double x => x.Canonical

/-- A whole number that is not greater than the limit on digits is far from having so many. -/
theorem Number.writable_int {n : Int} (h : n.natAbs ≤ digitLimit) : (Number.int n).Writable := by
  have hlt (k : Nat) : k < Nat.pow 10 k := Nat.lt_pow_self (by decide)
  exact h.trans_lt (hlt digitLimit)

/-- **A number that is finite.** -/
def Number.Finite : Number → Prop
  | .double .nan => False
  | .double (.infinity _) => False
  | _ => True

/-- Finite numbers are those that are plain already. -/
theorem Number.finite_iff {n : Number} : n.Finite ↔ Value.plainNumber n = .number n := by
  rcases n with n | (_ | negative | ⟨negative, m, e⟩) <;> simp [Finite, Value.plainNumber]

/-- A number of the usual kind: it can be written, and is finite. -/
def Number.Usual (n : Number) : Prop := n.Writable ∧ Value.plainNumber n = .number n

namespace Json

section

variable {kind kind' : Number → Prop}

theorem Storable.mono (hkind : ∀ n, kind n → kind' n) {v : Value} (h : Storable kind v) :
    Storable kind' v := by
  induction h with
  | null => exact .null
  | bool b => exact .bool b
  | number hn => exact .number (hkind _ hn)
  | text s => exact .text s
  | list _ ih => exact .list ih
  | object hkeys _ ih => exact .object hkeys ih

theorem storable_object_iff {fields : Table Value} : Storable kind (.object fields) ↔
    fields.keys.Nodup ∧ ∀ entry ∈ fields, Storable kind entry.2 := by
  constructor
  · rintro (_ | _ | _ | _ | _ | ⟨hkeys, h⟩)
    exact ⟨hkeys, h⟩
  · rintro ⟨hkeys, h⟩
    exact .object hkeys h

theorem storable_list_iff {items : List Value} :
    Storable kind (.list items) ↔ ∀ v ∈ items, Storable kind v := by
  constructor
  · rintro (_ | _ | _ | _ | h | _)
    exact h
  · exact .list

theorem Storable.get? {fields : Table Value} (h : Storable kind (.object fields)) {key : String}
    {v : Value} (hv : fields.get? key = some v) : Storable kind v :=
  (storable_object_iff.mp h).2 (key, v) (Table.mem_of_get? hv)

theorem Storable.item {v u : Value} (h : Storable kind v) (hu : u ∈ v.items) :
    Storable kind u := by
  cases h with
  | list h => exact h u hu
  | _ => exact absurd hu List.not_mem_nil

theorem Storable.insert {fields : Table Value} (h : Storable kind (.object fields)) (key : String)
    {v : Value} (hv : Storable kind v) : Storable kind (.object (fields.insert key v)) := by
  rw [storable_object_iff] at h
  refine .object (Table.keys_nodup_insert h.1 key v) fun entry hentry => ?_
  rcases Table.mem_of_mem_insert hentry with rfl | hold
  · exact hv
  · exact h.2 entry hold

end

/-- What a document can hold is told apart by its written form. -/
theorem Storable.exact {v : Value} (h : Storable Number.Writable v) : Exact v := by
  induction h with
  | null => trivial
  | bool b => trivial
  | @number n hn =>
    cases n with
    | int n => trivial
    | double x => exact hn
  | text s => trivial
  | list _ ih => exact itemsExact_iff.mpr ih
  | object hkeys _ ih => exact exact_object_iff.mpr ⟨hkeys, ih⟩

theorem exists_itemChars {layout : Layout} {items : List Value} {level : Nat}
    (h : ∀ v ∈ items, ∃ s, chars layout level v = .ok s) :
    ∃ entries, itemChars layout level items = .ok entries := by
  induction items with
  | nil => exact ⟨[], rfl⟩
  | cons v rest ih =>
    obtain ⟨first, hfirst⟩ := h v List.mem_cons_self
    obtain ⟨others, hothers⟩ := ih fun x hx => h x (List.mem_cons_of_mem _ hx)
    refine ⟨first :: others, ?_⟩
    rw [itemChars, hfirst, hothers]
    rfl

theorem exists_fieldChars {layout : Layout} {fields : List (String × Value)} {level : Nat}
    (h : ∀ entry ∈ fields, ∃ s, chars layout level entry.2 = .ok s) :
    ∃ entries, fieldChars layout level fields = .ok entries := by
  induction fields with
  | nil => exact ⟨[], rfl⟩
  | cons entry rest ih =>
    obtain ⟨key, v⟩ := entry
    obtain ⟨first, hfirst⟩ := h (key, v) List.mem_cons_self
    obtain ⟨others, hothers⟩ := ih fun x hx => h x (List.mem_cons_of_mem _ hx)
    refine ⟨(quote key.toList ++ layout.keySeparator.toList ++ first) :: others, ?_⟩
    rw [fieldChars, hfirst, hothers]
    rfl

theorem exists_numberText {n : Number} (h : n.Writable) : ∃ s, numberText n = .ok s := by
  cases n with
  | int n =>
    refine ⟨intText n, ?_⟩
    rw [Number.Writable] at h
    rw [numberText, Number.intText?, if_pos h]
  | double x =>
    cases x with
    | nan => exact ⟨_, rfl⟩
    | infinity negative => exact ⟨_, rfl⟩
    | finite negative m e => exact ⟨_, rfl⟩

/-- **What a document can hold has a written form.** -/
theorem Storable.exists_chars {v : Value} (h : Storable Number.Writable v) (layout : Layout)
    (level : Nat) : ∃ s, chars layout level v = .ok s := by
  induction h generalizing level with
  | null => exact ⟨_, rfl⟩
  | bool b => exact ⟨_, rfl⟩
  | number hn =>
    obtain ⟨s, hs⟩ := exists_numberText hn
    refine ⟨s.toList, ?_⟩
    rw [chars, hs]
    rfl
  | text s => exact ⟨_, rfl⟩
  | list _ ih =>
    obtain ⟨entries, hentries⟩ := exists_itemChars fun v hv => ih v hv (level + 1)
    exact ⟨_, by rw [chars, hentries]; rfl⟩
  | object _ _ ih =>
    obtain ⟨entries, hentries⟩ := exists_fieldChars fun entry he => ih entry he (level + 1)
    exact ⟨_, by rw [chars, hentries]; rfl⟩

theorem Storable.exists_write {v : Value} (h : Storable Number.Writable v) (layout : Layout) :
    ∃ content, write layout v = .ok content := by
  obtain ⟨s, hs⟩ := h.exists_chars layout 0
  refine ⟨String.ofList s, ?_⟩
  rw [write, hs]
  rfl

/-! ## In messages -/

theorem exists_itemTexts {items : List Value} (h : ∀ v ∈ items, ∃ s, v.toText = .ok s) :
    ∃ texts, Value.itemTexts items = .ok texts := by
  induction items with
  | nil => exact ⟨[], rfl⟩
  | cons v rest ih =>
    obtain ⟨first, hfirst⟩ := h v List.mem_cons_self
    obtain ⟨others, hothers⟩ := ih fun x hx => h x (List.mem_cons_of_mem _ hx)
    refine ⟨first :: others, ?_⟩
    rw [Value.itemTexts, hfirst, hothers]
    rfl

/-- Doubles can all be put into a message. -/
theorem exists_doubleText (x : Double) : ∃ s, Value.numberText (.double x) = .ok s := by
  cases x with
  | nan => exact ⟨_, rfl⟩
  | infinity negative => exact ⟨_, rfl⟩
  | finite negative m e =>
    unfold Value.numberText
    dsimp only
    split
    · exact ⟨_, rfl⟩
    · exact ⟨_, rfl⟩

theorem exists_plainText {n : Number} (h : n.Writable) : ∃ s, Value.numberText n = .ok s := by
  cases n with
  | int n =>
    refine ⟨intText n, ?_⟩
    rw [Number.Writable] at h
    rw [Value.numberText, Number.intText?, if_pos h]
  | double x => exact exists_doubleText x

/-- **What a document can hold can be put into a message.** -/
theorem Storable.exists_toText {v : Value} (h : Storable Number.Writable v) :
    ∃ s, v.toText = .ok s := by
  induction h with
  | null => exact ⟨_, rfl⟩
  | bool b => exact ⟨_, rfl⟩
  | number hn => exact exists_plainText hn
  | text s => exact ⟨_, rfl⟩
  | list _ ih =>
    obtain ⟨texts, htexts⟩ := exists_itemTexts ih
    exact ⟨_, by rw [Value.toText, htexts]; rfl⟩
  | object hkeys h _ => exact (Storable.object hkeys h).exists_write .line

/-! ## Plain documents -/

theorem plainItems_eq_map (items : List Value) :
    Value.plainItems items = items.map Value.plain := by
  induction items with
  | nil => rfl
  | cons v rest ih => rw [Value.plainItems, ih, List.map_cons]

theorem plainFields_eq_map (fields : Table Value) :
    Value.plainFields fields = fields.map fun entry => (entry.1, entry.2.plain) := by
  induction fields with
  | nil => rfl
  | cons entry rest ih => rw [Value.plainFields, ih, List.map_cons]

/-- **A document of finite numbers is plain already.** -/
theorem Storable.plain_eq {v : Value} (h : Storable Number.Finite v) : v.plain = v := by
  induction h with
  | null => rfl
  | bool b => rfl
  | number hn => exact Number.finite_iff.mp hn
  | text s => rfl
  | list _ ih => rw [Value.plain, plainItems_eq_map, List.map_congr_left ih, List.map_id']
  | @object fields _ _ ih =>
    have hentry : ∀ entry ∈ fields, (entry.1, entry.2.plain) = entry :=
      fun entry he => Prod.ext rfl (ih entry he)
    rw [Value.plain, plainFields_eq_map, List.map_congr_left hentry, List.map_id']

theorem Storable.plainFields_eq {fields : Table Value}
    (h : Storable Number.Finite (.object fields)) : Value.plainFields fields = fields :=
  Value.object.inj h.plain_eq

/-- **The plain form of a document** is a document of the same kind of numbers. -/
theorem Storable.plain {kind : Number → Prop} {v : Value} (h : Storable kind v) :
    Storable kind v.plain := by
  induction h with
  | null => exact .null
  | bool b => exact .bool b
  | @number n hn =>
    rw [Value.plain]
    unfold Value.plainNumber
    split
    · exact .null
    · exact .null
    · exact .number hn
  | text s => exact .text s
  | list _ ih =>
    rw [Value.plain, plainItems_eq_map]
    exact .list (List.forall_mem_map.mpr ih)
  | object hkeys _ ih =>
    rw [Value.plain, plainFields_eq_map]
    refine .object ?_ (List.forall_mem_map.mpr ih)
    rwa [Table.keys, List.map_map]

/-- Only text has text as its plain form. -/
theorem Storable.eq_text_of_plain {kind : Number → Prop} {v : Value} (h : Storable kind v)
    {s : String} (hplain : v.plain = .text s) : v = .text s := by
  cases h with
  | @number n _ =>
    rw [Value.plain] at hplain
    unfold Value.plainNumber at hplain
    split at hplain <;> cases hplain
  | text t => exact hplain
  | null => cases hplain
  | bool b => cases hplain
  | list _ => cases hplain
  | object _ _ => cases hplain

theorem Storable.writable {v : Value} (h : Storable Number.Usual v) : Storable Number.Writable v :=
  h.mono fun _ hn => hn.1

theorem Storable.finite {v : Value} (h : Storable Number.Usual v) : Storable Number.Finite v :=
  h.mono fun _ hn => Number.finite_iff.mpr hn.2

theorem allFiniteItems_iff {items : List Value} :
    Value.allFiniteItems items = true ↔ ∀ v ∈ items, v.allFinite = true := by
  induction items with
  | nil => simp [Value.allFiniteItems]
  | cons v rest ih => simp [Value.allFiniteItems, ih]

theorem allFiniteFields_iff {fields : List (String × Value)} :
    Value.allFiniteFields fields = true ↔ ∀ entry ∈ fields, entry.2.allFinite = true := by
  induction fields with
  | nil => simp [Value.allFiniteFields]
  | cons entry rest ih => simp [Value.allFiniteFields, ih]

/-- A document whose numbers are finite has usual numbers only. -/
theorem Storable.usual {v : Value} (h : Storable Number.Writable v) (hfinite : v.allFinite = true) :
    Storable Number.Usual v := by
  induction h with
  | null => exact .null
  | bool b => exact .bool b
  | @number n hn =>
    refine .number ⟨hn, ?_⟩
    cases n with
    | int n => rfl
    | double x =>
      cases x with
      | finite negative m e => rfl
      | nan => cases hfinite
      | infinity negative => cases hfinite
  | text s => exact .text s
  | list _ ih =>
    rw [Value.allFinite, allFiniteItems_iff] at hfinite
    exact .list fun v hv => ih v hv (hfinite v hv)
  | object hkeys _ ih =>
    rw [Value.allFinite, allFiniteFields_iff] at hfinite
    exact .object hkeys fun entry he => ih entry he (hfinite entry he)

/-! ## Documents that are read -/

theorem digitsValue_lt {digits : List Char} (h : Digits digits) :
    digitsValue digits < 10 ^ digits.length := by
  induction digits using List.reverseRecOn with
  | nil => decide
  | append_singleton digits c ih =>
    have hc : isAsciiDigit c = true := h c (by simp)
    have hbound : c.toNat ≤ 57 := by
      simp [isAsciiDigit, Char.le_def, UInt32.le_iff_toNat_le] at hc
      exact hc.2
    have hvalue : digitsValue [c] = c.toNat - 48 := by simp [digitsValue]
    have := ih fun d hd => h d (List.mem_append_left _ hd)
    rw [digitsValue_append, hvalue, List.length_append, List.length_singleton, pow_one, pow_succ]
    omega

theorem digits_wholePart (s : List Char) : Digits (wholePart s) := by
  unfold wholePart
  split
  · exact digits_zeros 1
  · exact fun c hc => List.mem_takeWhile_imp hc

/-- **A number that is read can be written.** -/
theorem storable_of_number {negative : Bool} {s rest : List Char} {v : Value}
    (h : number negative s = .ok (v, rest)) : Storable Number.Writable v := by
  unfold number at h
  dsimp only at h
  split at h
  · cases h
  · split at h
    · split at h
      · cases h
      · next hlimit =>
        obtain rfl := (Prod.mk.inj (Except.ok.inj h)).1
        refine .number ?_
        have hpow {width : Nat} (h : (wholePart s).length ≤ width) :
            digitsValue (wholePart s) < Nat.pow 10 width :=
          (digitsValue_lt (digits_wholePart s)).trans_le (Nat.pow_le_pow_right (by decide) h)
        have hvalue := hpow (not_lt.mp hlimit)
        rw [Number.Writable]
        split
        · rwa [Int.natAbs_neg, Int.natAbs_natCast]
        · rwa [Int.natAbs_natCast]
    · obtain rfl := (Prod.mk.inj (Except.ok.inj h)).1
      exact .number (Double.canonical_ofDecimal _ _ _)

theorem storable_of_wordValue {s rest : List Char} {v : Value} (h : wordValue s = .ok (v, rest)) :
    Storable Number.Writable v := by
  unfold wordValue at h
  split at h
  · obtain rfl := (Prod.mk.inj (Except.ok.inj h)).1
    exact .null
  · split at h
    · obtain rfl := (Prod.mk.inj (Except.ok.inj h)).1
      exact .bool true
    · split at h
      · obtain rfl := (Prod.mk.inj (Except.ok.inj h)).1
        exact .bool false
      · split at h
        · obtain rfl := (Prod.mk.inj (Except.ok.inj h)).1
          exact .number trivial
        · split at h
          · obtain rfl := (Prod.mk.inj (Except.ok.inj h)).1
            exact .number trivial
          · split at h
            · obtain rfl := (Prod.mk.inj (Except.ok.inj h)).1
              exact .number trivial
            · cases h

/-- **What is read with so much fuel can be held by a document.** -/
structure Sound (fuel : Nat) : Prop where
  /-- a value -/
  one {s rest : List Char} {v : Value} (h : value fuel s = .ok (v, rest)) :
    Storable Number.Writable v
  /-- the items of a list -/
  many {s rest : List Char} {vs : List Value} (h : items fuel s = .ok (vs, rest)) :
    ∀ v ∈ vs, Storable Number.Writable v
  /-- the members of a map -/
  named {s rest : List Char} {fields : List (String × Value)}
    (h : members fuel s = .ok (fields, rest)) : ∀ entry ∈ fields, Storable Number.Writable entry.2

namespace Sound

variable {fuel : Nat} (hsound : Sound fuel) {s rest : List Char}

include hsound

theorem one_succ {v : Value} (h : value (fuel + 1) s = .ok (v, rest)) :
    Storable Number.Writable v := by
  unfold value at h
  split at h
  · obtain ⟨⟨text, t⟩, -, h⟩ := exists_of_bind_ok h
    obtain rfl := (Prod.mk.inj (Except.ok.inj h)).1
    exact .text text
  · split at h
    · obtain rfl := (Prod.mk.inj (Except.ok.inj h)).1
      exact .list (List.forall_mem_nil _)
    · obtain ⟨⟨vs, t⟩, hvs, h⟩ := exists_of_bind_ok h
      obtain rfl := (Prod.mk.inj (Except.ok.inj h)).1
      exact .list (hsound.many hvs)
  · split at h
    · obtain rfl := (Prod.mk.inj (Except.ok.inj h)).1
      exact .object List.nodup_nil (List.forall_mem_nil _)
    · obtain ⟨⟨fields, t⟩, hfields, h⟩ := exists_of_bind_ok h
      obtain rfl := (Prod.mk.inj (Except.ok.inj h)).1
      exact .object (Table.keys_nodup_ofEntries fields) fun entry he =>
        hsound.named hfields entry (Table.mem_of_mem_ofEntries he)
  · split at h
    · exact storable_of_number h
    · exact storable_of_wordValue h
  · split at h
    · exact storable_of_number h
    · exact storable_of_wordValue h
  · cases h

theorem many_succ {vs : List Value} (h : items (fuel + 1) s = .ok (vs, rest)) :
    ∀ v ∈ vs, Storable Number.Writable v := by
  unfold items at h
  obtain ⟨⟨first, t⟩, hfirst, h⟩ := exists_of_bind_ok h
  dsimp only at h
  split at h
  · obtain ⟨⟨others, u⟩, hothers, h⟩ := exists_of_bind_ok h
    obtain rfl := (Prod.mk.inj (Except.ok.inj h)).1
    exact List.forall_mem_cons.mpr ⟨hsound.one hfirst, hsound.many hothers⟩
  · obtain rfl := (Prod.mk.inj (Except.ok.inj h)).1
    exact List.forall_mem_singleton.mpr (hsound.one hfirst)
  · cases h

theorem named_succ {fields : List (String × Value)}
    (h : members (fuel + 1) s = .ok (fields, rest)) :
    ∀ entry ∈ fields, Storable Number.Writable entry.2 := by
  unfold members at h
  split at h
  · obtain ⟨⟨key, t⟩, -, h⟩ := exists_of_bind_ok h
    dsimp only at h
    split at h
    · obtain ⟨⟨first, u⟩, hfirst, h⟩ := exists_of_bind_ok h
      dsimp only at h
      split at h
      · obtain ⟨⟨others, x⟩, hothers, h⟩ := exists_of_bind_ok h
        obtain rfl := (Prod.mk.inj (Except.ok.inj h)).1
        exact List.forall_mem_cons.mpr ⟨hsound.one hfirst, hsound.named hothers⟩
      · obtain rfl := (Prod.mk.inj (Except.ok.inj h)).1
        exact List.forall_mem_singleton.mpr (hsound.one hfirst)
      · cases h
    · cases h
  · cases h

end Sound

theorem sound (fuel : Nat) : Sound fuel := by
  induction fuel with
  | zero => exact ⟨nofun, nofun, nofun⟩
  | succ fuel ih => exact ⟨ih.one_succ, ih.many_succ, ih.named_succ⟩

/-- **What is read from text can be held by a document**, and so can what is shown of text with halves
of surrogate pairs. -/
theorem storable_of_shown {s : List Char} {v : Value} (h : shown? (readChars s) = some v) :
    Storable Number.Writable v := by
  unfold readChars at h
  split at h
  · next result rest hresult =>
    have hstorable := (sound _).one hresult
    split at h
    · cases h
    · split at h <;> obtain rfl := Option.some.inj h <;> exact hstorable
  · next flaw _ => cases flaw <;> cases h

end Json

/-! ## Files -/

/-- **The document of a file** can be held by one. -/
theorem Disk.storable_of_readDocument {d : Disk} {name : String} {v : Value}
    (h : d.readDocument name = .ok (.document v)) : Json.Storable Number.Writable v := by
  unfold Disk.readDocument at h
  split at h
  · cases h
  · cases h
  · split at h
    · cases h
    · split at h
      · next hchars =>
        obtain rfl := FileDocument.document.inj (Except.ok.inj h)
        exact Json.storable_of_shown (by rw [hchars]; rfl)
      · next hchars =>
        obtain rfl := FileDocument.document.inj (Except.ok.inj h)
        exact Json.storable_of_shown (by rw [hchars]; rfl)
      · cases h
      · cases h

/-- **A file that holds the written form of an exact value is read as the value.** -/
theorem Disk.readDocument_of_read {d : Disk} {name content : String} {layout : Json.Layout}
    (hlayout : layout.Readable) {v : Value} (hv : Json.Exact v)
    (hcontent : Json.write layout v = .ok content)
    (hread : d.read name = .content (Utf8.encode content.toList)) :
    d.readDocument name = .ok (.document v) := by
  have hchars := Json.readChars_write hlayout hv hcontent
  rw [Disk.readDocument, hread]
  simp only [Utf8.decode?_encode, hchars]

end ChatFlow
