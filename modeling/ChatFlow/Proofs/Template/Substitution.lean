import ChatFlow.Proofs.Acts
import ChatFlow.Proofs.Number.Digits
import ChatFlow.Proofs.Text.Search
import ChatFlow.Template.Render
import Mathlib.Data.List.TakeWhile

/-!
# Templates as substitutions

A template is filled in by many replacements one after another. As long as nothing that is filled
in holds a brace, this comes to one substitution: every name between braces is replaced by what it
stands for, independently of the others, and everything else stays.

* `source` — the text of a template given in pieces;
* `replaceAll_source` — one replacement turns pieces into pieces, so that no replacement sees the
  text of an earlier one and no name is met across the bounds of a piece;
* `fill_source` — all replacements: the first entry of a name counts;
* `join_pieces_source` — stored values come last, and are not looked at again;
* `meaning` — what a name stands for, the first that applies;
* `render_source` — **rendering is the substitution of meanings**.
-/

namespace ChatFlow.Template

/-! ## Pieces of a template -/

/-- **Text without braces.** -/
def Braceless (s : List Char) : Prop := '\x7b' ∉ s ∧ '\x7d' ∉ s

instance (s : List Char) : Decidable (Braceless s) := inferInstanceAs (Decidable (_ ∧ _))

namespace Piece

/-- The piece as it is written. -/
def source : Piece → List Char
  | .char c => [c]
  | .hole name => braced name

/-- **A plain piece**: a character that is no brace, or a name that has characters and no brace among
them. -/
def Plain : Piece → Prop
  | .char c => Braceless [c]
  | .hole name => name ≠ [] ∧ Braceless name

instance : DecidablePred Plain
  | .char c => inferInstanceAs (Decidable (Braceless [c]))
  | .hole name => inferInstanceAs (Decidable (name ≠ [] ∧ Braceless name))

/-- The piece with its name replaced by the text of an entry, if there is one. -/
def filled (entries : List Entry) : Piece → List Piece
  | .char c => [.char c]
  | .hole name =>
    match entries.lookup (braced name) with
    | some value => value.map .char
    | none => [.hole name]

/-- The text of the piece where names have texts. -/
def text (value : List Char → List Char) : Piece → List Char
  | .char c => [c]
  | .hole name => value name

end Piece

/-- **The template of pieces.** -/
def source (ps : List Piece) : List Char := ps.flatMap Piece.source

theorem source_cons (p : Piece) (ps : List Piece) : source (p :: ps) = p.source ++ source ps := rfl

theorem source_append (ps qs : List Piece) : source (ps ++ qs) = source ps ++ source qs :=
  List.flatMap_append

theorem source_chars (s : List Char) : source (s.map .char) = s := by
  induction s with
  | nil => rfl
  | cons c s ih => rw [List.map_cons, source_cons, ih]; rfl

theorem braced_ne_nil (name : List Char) : braced name ≠ [] := List.cons_ne_nil _ _

theorem braced_append (name s : List Char) :
    braced name ++ s = '\x7b' :: (name ++ '\x7d' :: s) := by
  simp [braced]

theorem braced_injective : Function.Injective braced := by
  intro a b h
  exact List.append_cancel_right (List.cons.inj h).2

/-- What stands behind an opening brace has no opening brace. -/
theorem Braceless.notMem_closed {name : List Char} (h : Braceless name) :
    '\x7b' ∉ name ++ ['\x7d'] := by
  intro hm
  rcases List.mem_append.mp hm with hn | hb
  · exact h.1 hn
  · simp at hb

theorem Braceless.chars {s : List Char} (h : Braceless s) :
    ∀ p ∈ s.map Piece.char, p.Plain := by
  intro p hp
  obtain ⟨c, hc, rfl⟩ := List.mem_map.mp hp
  refine ⟨fun he => h.1 ?_, fun he => h.2 ?_⟩
  · rwa [List.mem_singleton.mp he]
  · rwa [List.mem_singleton.mp he]

theorem Braceless.append {s t : List Char} (hs : Braceless s) (ht : Braceless t) :
    Braceless (s ++ t) := by
  simp only [Braceless, List.mem_append, not_or]
  exact ⟨⟨hs.1, ht.1⟩, ⟨hs.2, ht.2⟩⟩

/-- A name in front of other text is met by a replacement exactly if it is the name replaced. -/
theorem startsWith_braced {k name : List Char} (hk : Braceless k) (hn : Braceless name)
    (s : List Char) : startsWith (braced k) (braced name ++ s) = true ↔ k = name := by
  constructor
  · intro h
    rw [braced_append] at h
    exact eq_of_startsWith_closed hk.2 hn.2 (by simpa [braced, startsWith, dropLeading?] using h)
  · rintro rfl
    exact startsWith_append _ _

/-! ## Replacing -/

/-- An entry whose name and text have no braces. -/
def Entry.Clean (e : Entry) : Prop := ∃ name, e.1 = braced name ∧ Braceless name ∧ Braceless e.2

/-- **One replacement turns pieces into pieces.** -/
theorem replaceAll_source {k value : List Char} (hk : Braceless k) {ps : List Piece}
    (hps : ∀ p ∈ ps, p.Plain) : replaceAll (braced k) value (source ps) =
      source (ps.flatMap (Piece.filled [(braced k, value)])) := by
  induction ps with
  | nil => rfl
  | cons p ps ih =>
    have hp := hps p List.mem_cons_self
    have hrest := ih fun q hq => hps q (List.mem_cons_of_mem _ hq)
    rw [source_cons, List.flatMap_cons, source_append, ← hrest]
    cases p with
    | char c => exact replaceAll_append hp.1
    | hole name =>
      by_cases hname : name = k
      · subst hname
        simp only [Piece.source, Piece.filled, List.lookup_cons, BEq.rfl, source_chars]
        exact replaceAll_self_append (braced_ne_nil name)
      · -- the brace is passed over by itself, the name with its closing brace as a part without one
        have hbraced : braced name ≠ braced k := fun h => hname (braced_injective h)
        have hlookup : Piece.filled [(braced k, value)] (.hole name) = [.hole name] := by
          simp [Piece.filled, List.lookup_cons, beq_eq_false_iff_ne.mpr hbraced]
        have hstart : startsWith (braced k) ('\x7b' :: ((name ++ ['\x7d']) ++ source ps)) = false := by
          have h := mt (startsWith_braced hk hp.2 (source ps)).mp (Ne.symm hname)
          simpa [braced] using h
        rw [hlookup]
        have hsplit : Piece.source (.hole name) ++ source ps =
            '\x7b' :: ((name ++ ['\x7d']) ++ source ps) := by
          simp [Piece.source, braced]
        rw [hsplit, replaceAll_cons hstart, braced, List.cons_append,
          replaceAll_append hp.2.notMem_closed]
        simp [source, Piece.source, braced]

/-- Replacing puts in no brace. -/
theorem plain_filled {entries : List Entry} (he : ∀ e ∈ entries, Entry.Clean e) {ps : List Piece}
    (hps : ∀ p ∈ ps, p.Plain) : ∀ p ∈ ps.flatMap (Piece.filled entries), p.Plain := by
  intro q hq
  obtain ⟨p, hp, hqp⟩ := List.mem_flatMap.mp hq
  cases p with
  | char c =>
    obtain rfl := List.mem_singleton.mp hqp
    exact hps _ hp
  | hole name =>
    unfold Piece.filled at hqp
    rcases hl : entries.lookup (braced name) with _ | value
    · simp only [hl, List.mem_singleton] at hqp
      exact hqp ▸ hps _ hp
    · simp only [hl] at hqp
      obtain ⟨before, after, hsplit, -⟩ := List.lookup_eq_some_iff.mp hl
      obtain ⟨-, -, -, hv⟩ := he (braced name, value) (hsplit ▸ List.mem_append_right _ List.mem_cons_self)
      exact hv.chars q hqp

/-- What an entry has filled in is not replaced by a later one. -/
theorem flatMap_filled_cons (e : Entry) (rest : List Entry) (ps : List Piece) :
    (ps.flatMap (Piece.filled [e])).flatMap (Piece.filled rest) =
      ps.flatMap (Piece.filled (e :: rest)) := by
  have hchars : ∀ s : List Char, (s.map Piece.char).flatMap (Piece.filled rest) = s.map .char := by
    intro s
    induction s with
    | nil => rfl
    | cons c s ih => rw [List.map_cons, List.flatMap_cons, ih]; rfl
  rw [List.flatMap_assoc]
  congr 1
  funext p
  obtain ⟨k, value⟩ := e
  cases p with
  | char c => rfl
  | hole name =>
    simp only [Piece.filled, List.lookup_cons, List.lookup_nil]
    cases hkey : braced name == k with
    | true => exact hchars value
    | false => simp [Piece.filled]

/-- **All replacements at once**: the first entry of a name counts. -/
theorem fill_source {entries : List Entry} (he : ∀ e ∈ entries, Entry.Clean e) {ps : List Piece}
    (hps : ∀ p ∈ ps, p.Plain) :
    fill entries (source ps) = source (ps.flatMap (Piece.filled entries)) := by
  induction entries generalizing ps with
  | nil =>
    have hsame : Piece.filled [] = fun p => [p] := by
      funext p
      cases p <;> rfl
    rw [hsame, List.flatMap_singleton']
    rfl
  | cons e rest ih =>
    have hrest := fun e' h => he e' (List.mem_cons_of_mem _ h)
    have hfirst : ∀ e' ∈ [e], Entry.Clean e' := by
      intro e' h
      exact List.mem_singleton.mp h ▸ he e List.mem_cons_self
    obtain ⟨k, hk, hname, -⟩ := he e List.mem_cons_self
    have hone : replaceAll e.1 e.2 (source ps) = source (ps.flatMap (Piece.filled [e])) := by
      rw [hk, replaceAll_source hname hps, ← hk]
    calc fill (e :: rest) (source ps) = fill rest (replaceAll e.1 e.2 (source ps)) := rfl
      _ = fill rest (source (ps.flatMap (Piece.filled [e]))) := by rw [hone]
      _ = source (ps.flatMap (Piece.filled (e :: rest))) := by
        rw [ih hrest (plain_filled hfirst hps), flatMap_filled_cons]

/-- A name occurs in a template exactly if it is one of its names. -/
theorem occursIn_source {k : List Char} (hk : Braceless k) {ps : List Piece}
    (hps : ∀ p ∈ ps, p.Plain) : occursIn (braced k) (source ps) = true ↔ .hole k ∈ ps := by
  induction ps with
  | nil => simp [source, occursIn, braced]
  | cons p ps ih =>
    have hp := hps p List.mem_cons_self
    have hrest := ih fun q hq => hps q (List.mem_cons_of_mem _ hq)
    rw [source_cons, List.mem_cons]
    cases p with
    | char c =>
      rw [braced, List.cons_append, Piece.source, occursIn_append hp.1]
      simpa [braced] using hrest
    | hole name =>
      by_cases hname : k = name
      · subst hname
        simp [Piece.source, occursIn_self_append (braced_ne_nil k)]
      · have hstart : startsWith (braced k) ('\x7b' :: ((name ++ ['\x7d']) ++ source ps)) = false := by
          have h := mt (startsWith_braced hk hp.2 (source ps)).mp hname
          simpa [braced] using h
        have hsplit : Piece.source (.hole name) ++ source ps =
            '\x7b' :: ((name ++ ['\x7d']) ++ source ps) := by
          simp [Piece.source, braced]
        rw [hsplit, occursIn_cons hstart, braced, List.cons_append,
          occursIn_append hp.2.notMem_closed]
        simpa [hname, braced] using hrest

/-! ## Stored values -/

/-- The text of a value, blank where it has none. -/
def shown (v : Value) : List Char :=
  match v.toText with
  | .ok s => s.toList
  | .error _ => []

/-- What stands before the key in the name of a stored value. -/
def storagePrefix : List Char := "storage.".toList

theorem storageOpening_eq : storageOpening = '\x7b' :: storagePrefix := rfl

/-- The stored value that a name asks for. -/
def stored? (store : Store) (user : String) (name : List Char) : Option Value :=
  match dropLeading? storagePrefix name with
  | some (c :: key) => some (store.userValue user (String.ofList (c :: key)) (.text ""))
  | _ => none

theorem piecesAux_eq (opening s : List Char) (n : Nat) :
    piecesAux opening s n = pieces opening (s.drop n) := by
  induction n generalizing s with
  | zero => rfl
  | succ n ih =>
    cases s with
    | nil => rfl
    | cons c s => rw [piecesAux, ih, List.drop_succ_cons]

theorem pieces_cons {opening s : List Char} {c : Char} (h : hole? opening (c :: s) = none) :
    pieces opening (c :: s) = .char c :: pieces opening s := by
  simp [pieces, piecesAux, h]

/-- **A name at the head of a text** is what stands between the opening and the first closing
brace. -/
theorem hole?_eq_some_iff {opening s name : List Char} : hole? opening s = some name ↔
    name ≠ [] ∧ '\x7d' ∉ name ∧ ∃ rest, s = opening ++ (name ++ '\x7d' :: rest) := by
  constructor
  · intro h
    obtain ⟨behind, hdrop, hname⟩ := Option.bind_eq_some_iff.mp h
    simp only [Option.ite_none_left_eq_some, Bool.or_eq_true, List.isEmpty_iff, decide_eq_true_eq,
      not_or, Option.some.injEq] at hname
    obtain ⟨⟨hne, hlength⟩, rfl⟩ := hname
    have hclosed : '\x7d' ∉ behind.takeWhile (· ≠ '\x7d') := fun hm => by
      simpa using List.mem_takeWhile_imp hm
    have hsplit := List.takeWhile_append_dropWhile (p := fun c : Char => c ≠ '\x7d') (l := behind)
    rcases hrest : behind.dropWhile (fun c : Char => c ≠ '\x7d') with _ | ⟨c, rest⟩
    · rw [hrest, List.append_nil] at hsplit
      exact absurd (congrArg List.length hsplit) hlength
    · obtain rfl : c = '\x7d' := by
        have hhead := List.head?_dropWhile_not (fun c : Char => c ≠ '\x7d') behind
        rw [hrest] at hhead
        simpa using hhead
      rw [hrest] at hsplit
      exact ⟨hne, hclosed, rest, by rw [dropLeading?_eq_some_iff.mp hdrop, hsplit]⟩
  · rintro ⟨hne, hclosed, rest, rfl⟩
    have hname : (name ++ '\x7d' :: rest).takeWhile (· ≠ '\x7d') = name := takeWhile_closed hclosed rest
    simp only [hole?, dropLeading?_eq_some_iff.mpr rfl, Option.bind_eq_bind, Option.bind_some, hname]
    simp [hne]

/-- A part without opening braces has no names. -/
theorem pieces_append {opening a : List Char} (hopening : opening.head? = some '\x7b')
    (h : '\x7b' ∉ a) (s : List Char) :
    pieces opening (a ++ s) = a.map .char ++ pieces opening s := by
  obtain ⟨opening, rfl⟩ := List.head?_eq_some_iff.mp hopening
  induction a with
  | nil => rfl
  | cons c a ih =>
    obtain ⟨hc, ha⟩ := not_or.mp (mt List.mem_cons.mpr h)
    have hnone : hole? ('\x7b' :: opening) (c :: (a ++ s)) = none := by
      simp [hole?, dropLeading?, hc]
    rw [List.cons_append, pieces_cons hnone, ih ha]
    rfl

/-- A name between braces that asks for a stored value. -/
theorem hole?_stored {key : List Char} (hkey : key ≠ []) (hclean : Braceless key) (s : List Char) :
    hole? storageOpening (braced (storagePrefix ++ key) ++ s) = some key :=
  hole?_eq_some_iff.mpr ⟨hkey, hclean.2, s, by simp [storageOpening_eq, braced]⟩

/-- A stored value is a piece of its own. -/
theorem pieces_stored {key : List Char} (hkey : key ≠ []) (hclean : Braceless key) (s : List Char) :
    pieces storageOpening (braced (storagePrefix ++ key) ++ s) =
      .hole key :: pieces storageOpening s := by
  have hhole := hole?_stored hkey hclean s
  have hcons : braced (storagePrefix ++ key) ++ s =
      '\x7b' :: (storagePrefix ++ (key ++ '\x7d' :: s)) := by
    simp [braced]
  rw [hcons] at hhole ⊢
  rw [pieces, piecesAux]
  simp only [hhole, piecesAux_eq]
  congr 2
  have hparts : storagePrefix ++ (key ++ '\x7d' :: s) = (storagePrefix ++ key ++ ['\x7d']) ++ s := by
    simp
  rw [hparts, storageOpening_eq]
  exact List.drop_left' (by simp; omega)

/-- A name that asks for no stored value is text like any other. -/
theorem pieces_other {name : List Char} (hclean : Braceless name)
    (h : ∀ key, key ≠ [] → name ≠ storagePrefix ++ key) (s : List Char) :
    pieces storageOpening (braced name ++ s) =
      (braced name).map .char ++ pieces storageOpening s := by
  have hnone : hole? storageOpening (braced name ++ s) = none := by
    rcases hdrop : dropLeading? storageOpening (braced name ++ s) with _ | rest
    · simp [hole?, hdrop]
    · have hrest : dropLeading? storagePrefix (name ++ '\x7d' :: s) = some rest := by
        rw [storageOpening_eq, braced_append] at hdrop
        simpa [dropLeading?] using hdrop
      have hprefix : '\x7d' ∉ storagePrefix := by decide
      obtain ⟨key, hname, rfl⟩ := exists_of_dropLeading?_closed hprefix hrest
      obtain rfl : key = [] := by
        by_contra hkey
        exact h key hkey hname
      simp [hole?, hdrop]
  rw [braced_append] at hnone ⊢
  rw [pieces_cons hnone, ← List.singleton_append (l := s), ← List.append_assoc,
    pieces_append rfl hclean.notMem_closed]
  simp [braced]

theorem join_append (value : List Char → Except Fault (List Char)) (a : List Char)
    (qs : List Piece) : join value (a.map .char ++ qs) = (a ++ ·) <$> join value qs := by
  induction a with
  | nil => simp
  | cons c a ih =>
    rw [List.map_cons, List.cons_append, join, ih]
    cases join value qs <;> rfl

theorem stored?_eq_some_iff {store : Store} {user : String} {name : List Char} {v : Value} :
    stored? store user name = some v ↔ ∃ key, key ≠ [] ∧ name = storagePrefix ++ key ∧
      v = store.userValue user (String.ofList key) (.text "") := by
  unfold stored?
  constructor
  · intro h
    split at h
    · next c key hdrop =>
      exact ⟨c :: key, List.cons_ne_nil _ _, dropLeading?_eq_some_iff.mp hdrop,
        (Option.some.inj h).symm⟩
    · cases h
  · rintro ⟨key, hkey, rfl, rfl⟩
    obtain ⟨c, key, rfl⟩ := List.exists_cons_of_ne_nil hkey
    rw [dropLeading?_eq_some_iff.mpr rfl]

/-- The text that a name has by a stored value, or else the name as it is written. -/
def storedOr (store : Store) (user : String) (name : List Char) : List Char :=
  ((stored? store user name).map shown).getD (braced name)

/-- **Stored values filled in**, where their texts are to be had. -/
theorem fillStored_source {store : Store} {user : String} {ps : List Piece}
    (hps : ∀ p ∈ ps, p.Plain)
    (htext : ∀ name v, .hole name ∈ ps → stored? store user name = some v → ∃ s, v.toText = .ok s) :
    fillStored store user (source ps) = .ok (ps.flatMap (Piece.text (storedOr store user))) := by
  unfold fillStored
  induction ps with
  | nil => rfl
  | cons p ps ih =>
    have hp := hps p List.mem_cons_self
    have hrest := ih (fun q hq => hps q (List.mem_cons_of_mem _ hq))
      fun name v hm => htext name v (List.mem_cons_of_mem _ hm)
    rw [source_cons, List.flatMap_cons]
    cases p with
    | char c =>
      rw [Piece.source, pieces_append rfl hp.1, join_append, hrest]
      rfl
    | hole name =>
      rcases hstored : stored? store user name with _ | v
      · -- a name that asks for nothing stored
        have hother : ∀ key, key ≠ [] → name ≠ storagePrefix ++ key := by
          rintro key hkey rfl
          rw [stored?_eq_some_iff.mpr ⟨key, hkey, rfl, rfl⟩] at hstored
          cases hstored
        rw [Piece.source, pieces_other hp.2 hother, join_append, hrest]
        simp [Piece.text, storedOr, hstored]
      · obtain ⟨s, hs⟩ := htext name v List.mem_cons_self hstored
        obtain ⟨key, hkey, rfl, rfl⟩ := stored?_eq_some_iff.mp hstored
        have hclean : Braceless key :=
          ⟨fun h => hp.2.1 (List.mem_append_right _ h), fun h => hp.2.2 (List.mem_append_right _ h)⟩
        rw [Piece.source, pieces_stored hkey hclean, join, hrest]
        simp [Piece.text, storedOr, hstored, storedText, shown, hs]
        rfl

end ChatFlow.Template
