import ChatFlow.Proofs.Json.Documents
import ChatFlow.Proofs.Template.Passes
import ChatFlow.Proofs.Template.Paths

/-!
# Lookups

Any text can turn up as a path, since replies are written around what users say.

* `Readable` — the paths whose digits can be read;
* `found` — what a path leads to, the empty text where it leads nowhere;
* `walk_readable`, `readable_of_walk` — **these paths, and no others, have an answer in every value**;
* `exists_renderJson` — a reply with such paths only is rendered, whatever the response;
* `extract_superscript` — a figure above the line is a digit, but cannot be read as a number.
-/

namespace ChatFlow

namespace Path

/-! ## Readable paths -/

/-- **A part that can be read**: whatever of it is a number has digits that can be. -/
structure Part.Readable (part : Part) : Prop where
  /-- its key, if that is all digits -/
  key : part.key.all isDigit = true → Countable part.key
  /-- its index -/
  index : ∀ digits ∈ part.index, Countable digits

/-- **Parts that can be read**, as far as they are well-formed. -/
def Readable : List (List Char) → Prop
  | [] => True
  | s :: rest => ∀ part, Part.ofText? s = some part → part.Readable ∧ Readable rest

instance (digits : List Char) : Decidable (Countable digits) :=
  decidable_of_iff (digits.all isDecimal = true ∧ digits.length ≤ Number.digitLimit)
    ⟨fun h => ⟨h.1, h.2⟩, fun h => ⟨h.decimal, h.short⟩⟩

instance (part : Part) : Decidable part.Readable :=
  decidable_of_iff ((part.key.all isDigit = true → Countable part.key) ∧
    ∀ digits ∈ part.index, Countable digits) ⟨fun h => ⟨h.1, h.2⟩, fun h => ⟨h.key, h.index⟩⟩

instance decidableReadable : (texts : List (List Char)) → Decidable (Readable texts)
  | [] => .isTrue trivial
  | s :: rest =>
    have := decidableReadable rest
    inferInstanceAs (Decidable (∀ part ∈ Part.ofText? s, part.Readable ∧ Readable rest))

/-- **What parts lead to**: the empty text where something is missing on the way or a part is
malformed. -/
def found : Value → List (List Char) → Value
  | v, [] => shown v
  | v, s :: rest =>
    match Part.ofText? s with
    | none => .text ""
    | some part =>
      match at? v (part.steps v) with
      | some u => found u rest
      | none => .text ""

theorem found_malformed {s : List Char} (h : Part.ofText? s = none) (v : Value)
    (rest : List (List Char)) : found v (s :: rest) = .text "" := by
  rw [found, h]

theorem found_part {s : List Char} {part : Part} (h : Part.ofText? s = some part) (v : Value)
    (rest : List (List Char)) : found v (s :: rest) =
      ((at? v (part.steps v)).map fun u => found u rest).getD (.text "") := by
  rw [found, h]
  dsimp only
  cases at? v (part.steps v) <;> rfl

/-- Nothing is found in nothing. -/
theorem found_null (texts : List (List Char)) : found .null texts = .text "" := by
  cases texts with
  | nil => rfl
  | cons s rest =>
    rcases hpart : Part.ofText? s with _ | part
    · exact found_malformed hpart _ rest
    · exact found_part hpart _ rest

/-- **A path that can be read has an answer**, in every value. -/
theorem walk_readable {texts : List (List Char)} (h : Readable texts) (v : Value) :
    walk v texts = .ok (found v texts) := by
  induction texts generalizing v with
  | nil => exact walk_nil v
  | cons s rest ih =>
    rcases hpart : Part.ofText? s with _ | part
    · rw [walk_malformed hpart, found_malformed hpart]
    · obtain ⟨hread, hrest⟩ := h part hpart
      have hstep := step_eq (v := v) (parts_of_ofText? hpart).1 (fun _ _ => hread.key) hread.index
      rw [walk_part hpart, hstep, found_part hpart]
      rcases at? v (part.steps v) with _ | u
      · exact (ih hrest .null).trans (congrArg _ (found_null rest))
      · exact ih hrest u

/-! ## Paths that cannot be read -/

/-- A value in which a part leads to a given one. -/
def Part.seat (part : Part) (u : Value) : Value :=
  .object [(String.ofList part.key, match part.index with
    | none => u
    | some digits => .list (List.replicate (Numeral.digitsValue digits) .null ++ [u]))]

theorem at?_seat (part : Part) (u : Value) : at? (part.seat u) (part.steps (part.seat u)) = some u := by
  obtain ⟨key, index⟩ := part
  have hkey (w : Value) : (Step.key key).down? (.object [(String.ofList key, w)]) = some w :=
    if_pos rfl
  cases index with
  | none => exact (at?_singleton _ _).trans (hkey u)
  | some digits =>
    have hitem : (Step.index (Numeral.digitsValue digits)).down?
        (.list (List.replicate (Numeral.digitsValue digits) .null ++ [u])) = some u := by
      simp [Step.down?]
    change ((Step.key key).down? _).bind _ = _
    rw [Part.seat, hkey, Option.bind_some]
    exact (at?_singleton _ _).trans hitem

/-- A part that leads somewhere in every value can be read: a key that is all digits is read as a number
at a list, and an index anywhere. -/
theorem readable_of_step {part : Part} (hkey : part.key ≠ []) (h : ∀ v, ∃ u, step v part = .ok u) :
    part.Readable where
  key hdigits := by
    obtain ⟨u, hu⟩ := h (.list [])
    obtain ⟨w, hw, -⟩ := exists_of_bind_ok hu
    have hcond : (!part.key.isEmpty && part.key.all isDigit) = true := by
      rw [hdigits, List.isEmpty_eq_false_iff.mpr hkey]
      rfl
    rw [child, if_pos hcond] at hw
    obtain ⟨i, hi, -⟩ := exists_of_bind_ok hw
    exact countable_of_position hi
  index digits hdigits := by
    obtain ⟨u, hu⟩ := h (.object [])
    obtain ⟨w, -, hw⟩ := exists_of_bind_ok hu
    rw [hdigits] at hw
    obtain ⟨i, hi, -⟩ := exists_of_bind_ok hw
    exact countable_of_position hi

/-- **No other path has an answer in every value.** -/
theorem readable_of_walk {texts : List (List Char)} (h : ∀ v, ∃ u, walk v texts = .ok u) :
    Readable texts := by
  induction texts with
  | nil => exact trivial
  | cons s rest ih =>
    intro part hpart
    simp only [walk_part hpart] at h
    obtain ⟨hkey, -⟩ := parts_of_ofText? hpart
    have hread : part.Readable := by
      refine readable_of_step hkey fun v => ?_
      obtain ⟨u, hu⟩ := h v
      obtain ⟨w, hw, -⟩ := exists_of_bind_ok hu
      exact ⟨w, hw⟩
    refine ⟨hread, ih fun u => ?_⟩
    obtain ⟨w, hw⟩ := h (part.seat u)
    rw [step_eq hkey (fun _ _ => hread.key) hread.index, at?_seat] at hw
    exact ⟨w, hw⟩

/-! ## What is found in documents -/

section

variable {kind : Number → Prop} {v : Value}

theorem storable_down? (h : Json.Storable kind v) {s : Step} {u : Value} (hu : s.down? v = some u) :
    Json.Storable kind u := by
  cases s with
  | key name =>
    cases v with
    | object fields => exact h.get? hu
    | _ => cases hu
  | index i =>
    cases v with
    | list items => exact h.item (List.mem_of_getElem? hu)
    | _ => cases hu

theorem storable_at? (h : Json.Storable kind v) {steps : List Step} {u : Value}
    (hu : at? v steps = some u) : Json.Storable kind u := by
  induction steps generalizing v with
  | nil =>
    obtain rfl := Option.some.inj hu
    exact h
  | cons s rest ih =>
    obtain ⟨w, hw, hrest⟩ := Option.bind_eq_some_iff.mp hu
    exact ih (storable_down? h hw) hrest

/-- **What is found in a document** could stand in one by itself. -/
theorem storable_found (h : Json.Storable kind v) (texts : List (List Char)) :
    Json.Storable kind (found v texts) := by
  induction texts generalizing v with
  | nil =>
    cases h with
    | null => exact .text ""
    | bool b => exact .bool b
    | number hn => exact .number hn
    | text s => exact .text s
    | list h => exact .list h
    | object hkeys h => exact .object hkeys h
  | cons s rest ih =>
    rcases hpart : Part.ofText? s with _ | part
    · rw [found_malformed hpart]
      exact .text ""
    · rw [found_part hpart]
      rcases hu : at? v (part.steps v) with _ | u
      · exact .text ""
      · exact ih (storable_at? h hu)

end

end Path

/-! ## Replies -/

namespace Template

/-- **A text whose paths can be read**, but for names that are never looked up. -/
def Searchable (s : List Char) : Prop :=
  ∀ name, .hole name ∈ pieces ['\x7b'] s →
    (passedNames.contains (String.ofList name) || decide (name.head? = some '$')) = true ∨
      Path.Readable (splitOn ['.'] (trimChars name))

/-- A path that can be read has a text, in every document. -/
theorem exists_pathText {body : Value} (hbody : Json.Storable Number.Writable body)
    {name : List Char} (h : Path.Readable (splitOn ['.'] (trimChars name))) :
    ∃ s, pathText body name = .ok s := by
  rw [pathText]
  split
  · exact ⟨_, rfl⟩
  · obtain ⟨s, hs⟩ := (Path.storable_found hbody (splitOn ['.'] (trimChars name))).exists_toText
    refine ⟨s.toList, ?_⟩
    rw [Path.extract, Path.walk_readable h]
    exact congrArg (Except.map String.toList) hs

/-- **A reply whose paths can be read is rendered**, in any document. -/
theorem exists_renderJson {o : Occasion} {template text : String} {w : World} {b : Bool}
    (hrender : (render o template w).1 = .done text)
    (hbody : Json.Storable Number.Writable (w.valueOf "api_json"))
    (hpaths : hasPaths (w.valueOf "api_json") = .ok b) (htext : Searchable text.toList) :
    ∃ result dice, renderJson o template w = (.done result, { w with dice }) := by
  obtain ⟨dice, hdice⟩ := render_snd o template w
  obtain ⟨filled, hfilled⟩ : ∃ filled,
      join (pathText (w.valueOf "api_json")) (pieces ['\x7b'] text.toList) = .ok filled := by
    refine exists_join fun name hname => ?_
    rcases htext name hname with hpassed | hread
    · exact ⟨_, if_pos hpassed⟩
    · exact exists_pathText hbody hread
  exact ⟨_, dice, run_renderJson (Prod.ext hrender hdice) hpaths hfilled⟩

end Template

namespace Path

/-- **A path whose digits can be read has an answer in every value**, and no other path has: what it
leads to, or the empty text. A reply with such paths only is rendered, whatever document is the
response. -/
theorem extract_readable (path : List Char) :
    (Readable (splitOn ['.'] path) ↔ ∀ v, ∃ u, extract v path = .ok u) ∧
    (Readable (splitOn ['.'] path) →
      ∀ v, extract v path = .ok (found v (splitOn ['.'] path))) ∧
    ∀ (o : Occasion) (template text : String) (w : World) (b : Bool),
      (Template.render o template w).1 = .done text →
      Json.Storable Number.Writable (w.valueOf "api_json") →
      Template.hasPaths (w.valueOf "api_json") = .ok b → Template.Searchable text.toList →
      ∃ result dice, Template.renderJson o template w = (.done result, { w with dice }) :=
  ⟨⟨fun h v => ⟨_, walk_readable h v⟩, readable_of_walk⟩, fun h v => walk_readable h v,
    fun _ _ _ _ _ hrender hbody hpaths htext =>
      Template.exists_renderJson hrender hbody hpaths htext⟩

/-! ## Asking for a row -/

namespace Game

/-- The board is the last response. -/
def world (body : Value) : World :=
  { Template.Greeting.world with context := [("api_json", body)] }

/-- A reply about a row that is not there. -/
def reply : String := "\x7brows[9].x\x7d"

/-- The path in it. -/
def row : List Char := "rows[9].x".toList

theorem readable_row : Readable (splitOn ['.'] row) := by decide

theorem searchable_reply : Template.Searchable reply.toList := by
  have hpieces : Template.pieces ['\x7b'] reply.toList = [.hole row] := by decide
  intro name hname
  rw [hpieces, List.mem_singleton] at hname
  obtain rfl := Template.Piece.hole.inj hname
  exact .inr (by decide)

theorem storable_board : Json.Storable Number.Writable board := by
  have hzero : Number.Writable (.int 0) := Number.writable_int (Nat.zero_le _)
  refine .object (by decide) (List.forall_mem_singleton.mpr (.list ?_))
  refine List.forall_mem_cons.mpr ⟨.list ?_, List.forall_mem_singleton.mpr ?_⟩
  · refine List.forall_mem_cons.mpr ⟨.number hzero, List.forall_mem_singleton.mpr ?_⟩
    exact .object (by decide) (List.forall_mem_singleton.mpr (.bool false))
  · exact .object List.nodup_nil (List.forall_mem_nil _)

end Game

open Game in
/-- A row that is not there is not found, and the reply about it is rendered. -/
theorem extract_readable_row :
    Readable (splitOn ['.'] row) ∧
      extract board row = .ok (found board (splitOn ['.'] row)) ∧
      (Template.render Template.Greeting.occasion reply (world board)).1 = .done reply ∧
      Json.Storable Number.Writable ((world board).valueOf "api_json") ∧
      Template.hasPaths ((world board).valueOf "api_json") = .ok true ∧
      Template.Searchable reply.toList ∧
      ∃ result dice, Template.renderJson Template.Greeting.occasion reply (world board) =
        (.done result, { world board with dice }) := by
  have hrender : (Template.render Template.Greeting.occasion reply (world board)).1 =
      .done reply := by decide +kernel
  exact ⟨readable_row, (extract_readable row).2.1 readable_row board, hrender, storable_board,
    rfl, searchable_reply, (extract_readable row).2.2 _ _ _ (world board) true hrender
      storable_board rfl searchable_reply⟩

open Game in
/-- **A figure above the line is a digit, but cannot be read as a number.** A list has no answer to such
a path, and a reply with it is not rendered. -/
theorem extract_superscript :
    extract (.list [.text "a"]) ['²'] = .error (.notNumeral "²") ∧
      (Template.renderJson Template.Greeting.occasion "\x7b²\x7d" (world (.list [.int 1]))).1 =
        .failed (.notNumeral "²") :=
  ⟨rfl, by decide +kernel⟩

end Path

end ChatFlow
