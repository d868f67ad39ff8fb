import ChatFlow.Proofs.Number.Literals
import ChatFlow.Proofs.Results
import ChatFlow.Proofs.Text.Search
import ChatFlow.Template.Path

/-!
# Paths and positions

A position in a value is a row of steps: to the entry of a map, or to the item of a list. A path writes
them as parts between points, where an index may also stand in brackets behind the part before it.

* `Step.down?`, `at?` — **the value at a position**;
* `Written`, `pathOf` — the paths that write a position, `ofText?_text` and `splitOn_pathOf` — read part
  by part as they were written;
* `step_eq` — a part leads down the steps that it stands for at a value, to nothing where they end;
* `extract_at` — **a path leads to the position that it writes**, and one that leads nowhere still does
  so with more parts behind it;
* `extract_endless` — but for an index of more digits than are read.
-/

namespace ChatFlow.Path

/-! ## Digits -/

/-- **Digits that can be read**: decimal ones, and not too many. -/
structure Countable (digits : List Char) : Prop where
  /-- all of them are decimal -/
  decimal : digits.all isDecimal = true
  /-- they lie within the limit -/
  short : digits.length ≤ Number.digitLimit

theorem Countable.position {digits : List Char} (h : Countable digits) :
    position digits = .ok (Numeral.digitsValue digits) := by
  rw [Path.position, if_pos h.decimal, Numeral.integer, if_neg (not_lt.mpr h.short)]
  rfl

/-- **No other digits can be read.** -/
theorem countable_of_position {digits : List Char} {i : Nat} (h : position digits = .ok i) :
    Countable digits := by
  rw [Path.position] at h
  split at h
  · next hdecimal =>
    refine ⟨hdecimal, not_lt.mp fun hlong => ?_⟩
    rw [Numeral.integer, if_pos hlong] at h
    cases h
  · cases h

theorem countable_natDigits {i : Nat} (h : i < 10 ^ Number.digitLimit) : Countable (natDigits i) := by
  refine ⟨List.all_eq_true.mpr fun c hc => ?_, (length_natDigits_le (by decide)).mpr h⟩
  exact isDecimal_of_isDigit (isDigit_of_mem_natDigits hc)

theorem all_isDigit_natDigits (i : Nat) : (natDigits i).all isDigit = true :=
  List.all_eq_true.mpr fun _ hc => isDigit_of_figure (isDigit_of_mem_natDigits hc)

/-! ## Positions -/

/-- **One step down.** -/
inductive Step where
  /-- to the entry of a map -/
  | key (name : List Char)
  /-- to the item of a list -/
  | index (i : Nat)

/-- The value one step down, if there is one. -/
def Step.down? : Step → Value → Option Value
  | .key name, .object fields => Table.get? fields (String.ofList name)
  | .index i, .list items => items[i]?
  | _, _ => none

/-- **The value at a position**, if there is one. -/
def at? : Value → List Step → Option Value
  | v, [] => some v
  | v, s :: rest => (s.down? v).bind fun u => at? u rest

theorem at?_singleton (v : Value) (s : Step) : at? v [s] = s.down? v := by
  simp only [at?]
  exact Option.bind_fun_some _

theorem at?_append (v : Value) (first rest : List Step) :
    at? v (first ++ rest) = (at? v first).bind fun u => at? u rest := by
  induction first generalizing v with
  | nil => rfl
  | cons s first ih =>
    rw [List.cons_append, at?, at?, Option.bind_assoc]
    exact congrArg _ (funext ih)

/-! ## What a part stands for -/

/-- The step that a key stands for at a value: at a list, digits are an index. -/
def stepAt : Value → List Char → Step
  | .list _, key => if key.all isDigit then .index (Numeral.digitsValue key) else .key key
  | _, key => .key key

/-- **The steps that a part stands for** at a value. -/
def Part.steps (part : Part) (v : Value) : List Step :=
  stepAt v part.key :: part.index.toList.map fun digits => .index (Numeral.digitsValue digits)

/-- The value under a key is that of its step, where its digits are only asked for at a list. -/
theorem child_eq {v : Value} {key : List Char} (hkey : key ≠ [])
    (h : ∀ items, v = .list items → key.all isDigit = true → Countable key) :
    child v key = .ok (Value.orNull ((stepAt v key).down? v)) := by
  cases v with
  | object fields => rfl
  | list items =>
    simp only [child, stepAt, List.isEmpty_eq_false_iff.mpr hkey, Bool.not_false, Bool.true_and]
    split
    · next hdigits =>
      rw [(h items rfl hdigits).position]
      simp only [Step.down?, bind, Except.bind, pure, Except.pure, List.getD_eq_getElem?_getD]
      cases items[Numeral.digitsValue key]? <;> rfl
    · rfl
  | _ => rfl

theorem item_eq {digits : List Char} (h : Countable digits) (v : Value) :
    item v digits = .ok (Value.orNull ((Step.index (Numeral.digitsValue digits)).down? v)) := by
  rw [item, h.position]
  cases v with
  | list items =>
    simp only [Step.down?, bind, Except.bind, pure, Except.pure, List.getD_eq_getElem?_getD]
    cases items[Numeral.digitsValue digits]? <;> rfl
  | _ => rfl

/-- Nothing is below nothing. -/
theorem down?_orNull (s : Step) (v : Option Value) : s.down? (Value.orNull v) = v.bind s.down? := by
  cases v with
  | none => cases s <;> rfl
  | some v => rfl

/-- **A part leads down the steps that it stands for**, to nothing where they end. -/
theorem step_eq {v : Value} {part : Part} (hkey : part.key ≠ [])
    (hlist : ∀ items, v = .list items → part.key.all isDigit = true → Countable part.key)
    (hindex : ∀ digits ∈ part.index, Countable digits) :
    step v part = .ok (Value.orNull (at? v (part.steps v))) := by
  obtain ⟨key, index⟩ := part
  rw [step, child_eq hkey hlist]
  cases index with
  | none =>
    rw [Part.steps, Option.toList_none, List.map_nil, at?_singleton]
    rfl
  | some digits =>
    have hsteps : at? v (Part.steps ⟨key, some digits⟩ v) = ((stepAt v key).down? v).bind
        (Step.index (Numeral.digitsValue digits)).down? :=
      congrArg _ (funext fun u => at?_singleton u _)
    rw [hsteps, ← down?_orNull]
    exact item_eq (hindex digits rfl) _

/-! ## Parts as text -/

/-- The digits in brackets are decimal, and there are some. -/
theorem decimal_of_bracket? {s digits : List Char} (h : bracket? s = some digits) :
    digits.all isDecimal = true := by
  rw [bracket?] at h
  split at h
  · cases h
  · split at h
    · obtain rfl := Option.some.inj h
      exact List.all_eq_true.mpr fun _ hc => List.mem_takeWhile_imp hc
    · obtain rfl := Option.some.inj h
      exact List.all_eq_true.mpr fun _ hc => List.mem_takeWhile_imp hc
    · cases h

/-- **A well-formed part** has a key, and an index of decimal digits if it has one. -/
theorem parts_of_ofText? {s : List Char} {part : Part} (h : Part.ofText? s = some part) :
    part.key ≠ [] ∧ ∀ digits ∈ part.index, digits.all isDecimal = true := by
  rw [Part.ofText?] at h
  split at h
  · cases h
  · next hkey =>
    rw [List.isEmpty_iff] at hkey
    split at h
    · obtain rfl := Option.some.inj h
      refine ⟨hkey, ?_⟩
      intro digits hdigits
      cases hdigits
    · obtain ⟨found, hfound, rfl⟩ := Option.map_eq_some_iff.mp h
      refine ⟨hkey, ?_⟩
      intro digits hdigits
      obtain rfl := Option.some.inj hdigits
      exact decimal_of_bracket? hfound

/-! ## Written paths -/

/-- The step as it is written. -/
def Step.text : Step → List Char
  | .key name => name
  | .index i => natDigits i

/-- **A step that a path can write**: a key has characters, and neither a point nor an opening bracket
among them; an index lies within the limit on digits. -/
def Step.Plain : Step → Prop
  | .key name => name ≠ [] ∧ '.' ∉ name ∧ '[' ∉ name
  | .index i => i < 10 ^ Number.digitLimit

/-- **A written part**: a step, and the index behind it where it is attached in brackets. -/
structure Written where
  /-- the step -/
  step : Step
  /-- the index behind it -/
  attached : Option Nat

namespace Written

/-- The steps that are written. -/
def steps (part : Written) : List Step := part.step :: part.attached.toList.map .index

/-- The part as it is written. -/
def text (part : Written) : List Char :=
  part.step.text ++ match part.attached with
    | some i => '[' :: natDigits i ++ [']']
    | none => []

/-- The part as it is read. -/
def part (w : Written) : Part := ⟨w.step.text, w.attached.map natDigits⟩

end Written

/-- **The path that parts write.** -/
def pathOf (parts : List Written) : List Char := ['.'].intercalate (parts.map Written.text)

/-- A character that is no digit does not stand in a number. -/
theorem notMem_natDigits {c : Char} (h : c.isDigit = false) (i : Nat) : c ∉ natDigits i := by
  intro hc
  rw [isDigit_of_mem_natDigits hc] at h
  cases h

theorem Step.Plain.text {s : Step} (h : s.Plain) : s.text ≠ [] ∧ '.' ∉ s.text ∧ '[' ∉ s.text := by
  cases s with
  | key name => exact h
  | index i =>
    exact ⟨natDigits_ne_nil i, notMem_natDigits (by decide) i, notMem_natDigits (by decide) i⟩

/-- What stands from the first opening character on. -/
theorem dropWhile_opened {a s : List Char} {opening : Char} (h : opening ∉ a) :
    (a ++ opening :: s).dropWhile (· ≠ opening) = opening :: s := by
  rw [List.dropWhile_append_of_pos]
  · simp
  · intro c hc
    simpa using fun he : c = opening => h (he ▸ hc)

theorem bracket?_natDigits (i : Nat) : bracket? (natDigits i ++ [']']) = some (natDigits i) := by
  have hdigits : ∀ c ∈ natDigits i, isDecimal c = true :=
    fun c hc => isDecimal_of_isDigit (isDigit_of_mem_natDigits hc)
  have htake : (natDigits i ++ [']']).takeWhile isDecimal = natDigits i := by
    rw [List.takeWhile_append_of_pos hdigits]
    exact List.append_nil _
  have hdrop : (natDigits i ++ [']']).dropWhile isDecimal = [']'] := by
    rw [List.dropWhile_append_of_pos hdigits]
    rfl
  simp [bracket?, htake, hdrop, natDigits_ne_nil]

section

variable {key : List Char} (hne : key ≠ []) (hopen : '[' ∉ key)

include hne hopen

theorem ofText?_key : Part.ofText? key = some ⟨key, none⟩ := by
  have hclean : ∀ c ∈ key, decide (c ≠ '[') = true :=
    fun c hc => decide_eq_true fun heq => hopen (heq ▸ hc)
  rw [Part.ofText?, List.takeWhile_eq_self_iff.mpr hclean, List.dropWhile_eq_nil_iff.mpr hclean]
  simp [hne]

theorem ofText?_indexed (i : Nat) :
    Part.ofText? (key ++ '[' :: (natDigits i ++ [']'])) = some ⟨key, some (natDigits i)⟩ := by
  rw [Part.ofText?, takeWhile_closed hopen, dropWhile_opened hopen]
  simp [hne, bracket?_natDigits]

end

/-- **A part is read as it was written.** -/
theorem ofText?_text {w : Written} (h : w.step.Plain) : Part.ofText? w.text = some w.part := by
  obtain ⟨hne, -, hopen⟩ := h.text
  obtain ⟨s, attached⟩ := w
  cases attached with
  | none =>
    rw [Written.text, List.append_nil]
    exact ofText?_key hne hopen
  | some i => exact ofText?_indexed hne hopen i

/-- A part has no point. -/
theorem notMem_text {w : Written} (h : w.step.Plain) : '.' ∉ w.text := by
  obtain ⟨-, hpoint, -⟩ := h.text
  obtain ⟨s, attached⟩ := w
  cases attached with
  | none => simpa [Written.text] using hpoint
  | some i =>
    have hdigits : '.' ∉ natDigits i := notMem_natDigits (by decide) i
    simp [Written.text, hpoint, hdigits]

/-- **A path is cut into the parts that it was written with.** -/
theorem splitOn_pathOf {parts : List Written} (hne : parts ≠ [])
    (h : ∀ w ∈ parts, w.step.Plain) : splitOn ['.'] (pathOf parts) = parts.map Written.text := by
  rw [splitOn_singleton, pathOf, List.splitOn_intercalate]
  · intro text htext
    obtain ⟨w, hw, rfl⟩ := List.mem_map.mp htext
    exact notMem_text (h w hw)
  · simpa using hne

/-! ## Walking -/

/-- A value as it is shown: the empty text for nothing. -/
def shown : Value → Value
  | .null => .text ""
  | v => v

theorem shown_eq {v : Value} (h : v ≠ .null) : shown v = v := by
  cases v with
  | null => exact absurd rfl h
  | _ => rfl

theorem walk_nil (v : Value) : walk v [] = .ok (shown v) := by
  cases v <;> rfl

theorem walk_malformed {s : List Char} (h : Part.ofText? s = none) (v : Value)
    (rest : List (List Char)) : walk v (s :: rest) = .ok (.text "") := by
  rw [walk, h]

theorem walk_part {s : List Char} {part : Part} (h : Part.ofText? s = some part) (v : Value)
    (rest : List (List Char)) : walk v (s :: rest) = step v part >>= fun u => walk u rest := by
  rw [walk, h]

/-- A written part stands for its steps wherever they lead somewhere. -/
theorem steps_part {w : Written} {v u : Value} (h : at? v w.steps = some u) :
    w.part.steps v = w.steps := by
  obtain ⟨s, attached⟩ := w
  have hindexes : (attached.map natDigits).toList.map
      (fun digits => Step.index (Numeral.digitsValue digits)) = attached.toList.map .index := by
    cases attached with
    | none => rfl
    | some i => simp [Numeral.digitsValue_natDigits]
  have hfirst : stepAt v s.text = s := by
    obtain ⟨m, hm, -⟩ := Option.bind_eq_some_iff.mp h
    cases s with
    | key name =>
      cases v with
      | object fields => rfl
      | _ => cases hm
    | index i =>
      cases v with
      | list items =>
        rw [stepAt, Step.text, if_pos (all_isDigit_natDigits i), Numeral.digitsValue_natDigits]
      | _ => cases hm
  rw [Part.steps, Written.part, Written.steps, hindexes, hfirst]

/-- **A written part leads down its steps.** -/
theorem step_written {w : Written} {v u : Value} (hw : ∀ s ∈ w.steps, s.Plain)
    (h : at? v w.steps = some u) : step v w.part = .ok u := by
  have hsteps := steps_part h
  obtain ⟨s, attached⟩ := w
  have hs : s.Plain := hw s List.mem_cons_self
  rw [step_eq hs.text.1, hsteps, h]
  · rfl
  · rintro items rfl -
    -- at a list the step is an index
    cases s with
    | key name => cases h
    | index i => exact countable_natDigits hs
  · intro digits hdigits
    obtain ⟨i, rfl, rfl⟩ := Option.map_eq_some_iff.mp hdigits
    exact countable_natDigits (hw (.index i) (by simp [Written.steps]))

theorem walk_written {parts : List Written} (hparts : ∀ w ∈ parts, ∀ s ∈ w.steps, s.Plain)
    {v u : Value} (h : at? v (parts.flatMap Written.steps) = some u) :
    walk v (parts.map Written.text) = .ok (shown u) := by
  induction parts generalizing v with
  | nil =>
    obtain rfl := Option.some.inj h
    exact walk_nil v
  | cons w rest ih =>
    rw [List.forall_mem_cons] at hparts
    rw [List.flatMap_cons, at?_append] at h
    obtain ⟨m, hm, hu⟩ := Option.bind_eq_some_iff.mp h
    have hplain : w.step.Plain := hparts.1 _ List.mem_cons_self
    rw [List.map_cons, walk_part (ofText?_text hplain), step_written hparts.1 hm]
    exact ih hparts.2 hu

/-! ## Nowhere -/

/-- **Parts with indexes that can be read.** -/
def Measured (texts : List (List Char)) : Prop :=
  ∀ s ∈ texts, ∀ part, Part.ofText? s = some part →
    ∀ digits ∈ part.index, digits.length ≤ Number.digitLimit

/-- Nothing leads anywhere from nothing, or from an empty text. -/
theorem walk_nowhere {texts : List (List Char)} (h : Measured texts) {v : Value}
    (hv : shown v = .text "") : walk v texts = .ok (.text "") := by
  induction texts generalizing v with
  | nil => rw [walk_nil, hv]
  | cons s rest ih =>
    rcases hpart : Part.ofText? s with _ | part
    · exact walk_malformed hpart v rest
    · obtain ⟨hkey, hdecimal⟩ := parts_of_ofText? hpart
      have hnowhere : at? v (part.steps v) = none := by
        cases v with
        | null => rfl
        | text t => rfl
        | _ => cases hv
      have hlist : ∀ items, v ≠ .list items := by
        rintro items rfl
        cases hv
      rw [walk_part hpart, step_eq hkey (fun items heq => absurd heq (hlist items)), hnowhere]
      · exact ih (fun t ht => h t (List.mem_cons_of_mem _ ht)) rfl
      · intro digits hdigits
        exact ⟨hdecimal digits hdigits, h s List.mem_cons_self part hpart digits hdigits⟩

/-- **A path that leads nowhere** leads nowhere with more parts behind it. -/
theorem walk_append {more : List (List Char)} (hmore : Measured more) {texts : List (List Char)}
    {v : Value} (h : walk v texts = .ok (.text "")) : walk v (texts ++ more) = .ok (.text "") := by
  induction texts generalizing v with
  | nil =>
    rw [walk_nil] at h
    exact walk_nowhere hmore (Except.ok.inj h)
  | cons s rest ih =>
    rcases hpart : Part.ofText? s with _ | part
    · exact walk_malformed hpart v _
    · rw [walk_part hpart] at h
      obtain ⟨u, hu, hrest⟩ := exists_of_bind_ok h
      rw [List.cons_append, walk_part hpart, hu]
      exact ih hrest

/-- **A path leads to the position that it writes**: of any value, to whatever is there but nothing.
And a path that leads nowhere leads nowhere with more parts behind it, as long as their indexes can be
read. -/
theorem extract_at (v : Value) :
    (∀ (parts : List Written) (u : Value), parts ≠ [] → (∀ w ∈ parts, ∀ s ∈ w.steps, s.Plain) →
      at? v (parts.flatMap Written.steps) = some u → u ≠ .null →
      extract v (pathOf parts) = .ok u) ∧
    ∀ path more : List Char, extract v path = .ok (.text "") → Measured (splitOn ['.'] more) →
      extract v (path ++ '.' :: more) = .ok (.text "") := by
  constructor
  · intro parts u hne hparts hat hu
    have hplain : ∀ w ∈ parts, w.step.Plain := fun w hw => hparts w hw _ List.mem_cons_self
    rw [extract, splitOn_pathOf hne hplain, walk_written hparts hat, shown_eq hu]
  · intro path more hpath hmore
    rw [extract, splitOn_singleton] at hpath ⊢
    rw [splitOn_singleton] at hmore
    rw [List.splitOn_append_cons_self]
    exact walk_append hmore hpath

/-! ## A game -/

namespace Game

/-- What the web knows of a game. -/
def board : Value :=
  .object [("rows", .list [.list [.int 0, .object [("7", .bool false)]], .object []])]

/-- The path `rows[0].1.7`. -/
def flag : List Written := [⟨.key "rows".toList, some 0⟩, ⟨.index 1, none⟩, ⟨.key ['7'], none⟩]

/-- An index that lies well within the limit. -/
theorem plain_index {i : Nat} (h : i ≤ Number.digitLimit) : (Step.index i).Plain :=
  h.trans_lt (Nat.lt_pow_self (by decide))

theorem plain_flag : ∀ w ∈ flag, ∀ s ∈ w.steps, s.Plain := by
  have hrows : (Step.key "rows".toList).Plain := by
    refine ⟨?_, ?_, ?_⟩ <;> decide
  have hseven : (Step.key ['7']).Plain := by
    refine ⟨?_, ?_, ?_⟩ <;> decide
  simp only [flag, Written.steps, List.forall_mem_cons, Option.toList_some, Option.toList_none,
    List.map_cons, List.map_nil]
  exact ⟨⟨hrows, plain_index (by decide), List.forall_mem_nil _⟩,
    ⟨plain_index (by decide), List.forall_mem_nil _⟩, ⟨hseven, List.forall_mem_nil _⟩,
    List.forall_mem_nil _⟩

theorem measured_rest : Measured (splitOn ['.'] "x.y[3]".toList) := by
  have hparts : splitOn ['.'] "x.y[3]".toList = [['x'], "y[3]".toList] := by decide
  have hx : Part.ofText? ['x'] = some ⟨['x'], none⟩ := by decide
  have hy : Part.ofText? "y[3]".toList = some ⟨['y'], some ['3']⟩ := by decide
  rw [Measured, hparts, List.forall_mem_cons, List.forall_mem_singleton]
  constructor
  · rintro part hpart digits hdigits
    obtain rfl := Option.some.inj (hx.symm.trans hpart)
    cases hdigits
  · rintro part hpart digits hdigits
    obtain rfl := Option.some.inj (hy.symm.trans hpart)
    obtain rfl := Option.some.inj hdigits
    decide

end Game

open Game in
/-- A flag on a board is found, and nothing is found below a row that is not there. -/
theorem extract_at_board :
    flag ≠ [] ∧ (∀ w ∈ flag, ∀ s ∈ w.steps, s.Plain) ∧ pathOf flag = "rows[0].1.7".toList ∧
      at? board (flag.flatMap Written.steps) = some (.bool false) ∧
      extract board (pathOf flag) = .ok (.bool false) ∧
      extract board "rows[7]".toList = .ok (.text "") ∧
      extract board ("rows[7]".toList ++ '.' :: "x.y[3]".toList) = .ok (.text "") :=
  ⟨nofun, plain_flag, by decide, rfl,
    (extract_at board).1 flag (.bool false) nofun plain_flag rfl nofun, rfl,
    (extract_at board).2 _ _ rfl measured_rest⟩

/-- **An index of too many digits is not read**, not even where nothing is left to be indexed: `x` leads
nowhere, but there is no answer to `x.y[…]`. -/
theorem extract_endless :
    extract (.object []) ['x'] = .ok (.text "") ∧
      extract (.object []) (['x'] ++ '.' :: (['y'] ++ '[' ::
        (natDigits (10 ^ Number.digitLimit) ++ [']']))) = .error .digitLimit := by
  have hlong : Number.digitLimit < (natDigits (10 ^ Number.digitLimit)).length := by
    rw [← not_le, length_natDigits_le (by decide)]
    exact lt_irrefl _
  generalize 10 ^ Number.digitLimit = i at hlong
  have hpoint : '.' ∉ natDigits i := notMem_natDigits (by decide) i
  have hparts : splitOn ['.'] (['x'] ++ '.' :: (['y'] ++ '[' :: (natDigits i ++ [']']))) =
      [['x'], ['y'] ++ '[' :: (natDigits i ++ [']'])] := by
    rw [splitOn_singleton, List.splitOn_append_cons_self_of_not_mem (by decide),
      List.splitOn_eq_singleton (by simp [hpoint])]
  have hx : Part.ofText? ['x'] = some ⟨['x'], none⟩ := ofText?_key nofun (by decide)
  have hkey : ['y'] ≠ [] := nofun
  have hy := ofText?_indexed hkey (by decide) i
  have hread : position (natDigits i) = .error .digitLimit := by
    have hdecimal : (natDigits i).all isDecimal = true :=
      List.all_eq_true.mpr fun _ hc => isDecimal_of_isDigit (isDigit_of_mem_natDigits hc)
    rw [position, if_pos hdecimal, Numeral.integer, if_pos hlong]
    rfl
  have hnowhere : step (.object []) ⟨['x'], none⟩ = .ok .null := rfl
  have hindexed : step .null ⟨['y'], some (natDigits i)⟩ = .error .digitLimit := by
    change (position (natDigits i) >>= fun _ => _) = _
    rw [hread]
    rfl
  refine ⟨rfl, ?_⟩
  rw [extract, hparts, walk_part hx, hnowhere]
  change walk .null [_] = _
  rw [walk_part hy, hindexed]
  rfl

end ChatFlow.Path
