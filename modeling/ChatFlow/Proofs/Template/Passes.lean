import ChatFlow.Proofs.Tables
import ChatFlow.Proofs.Template.Rendering

/-!
# Rendering pass by pass

Nothing is asked here of what is filled in: texts may have braces, and a later pass reads what an
earlier one has filled in.

* `text_pieces` — the pieces of a text, written out again, are the text;
* `fill_of_absent`, `fillStored_of_absent` — a pass that finds nothing of its own changes nothing;
* `Nameless` — a text that names nothing, `join_between`, `fill_between` — a part of a text, filled in as
  if it stood alone;
* `run_render` — **rendering in one step**: dice are thrown, and then the passes computed;
* `run_renderJson` — **looking up paths in one step**, once that is done;
* `Renderable` — a world in which every template can be rendered (`Renderable.exists_render`).
-/

namespace ChatFlow.Template

/-! ## Replacements -/

theorem fill_append (first second : List Entry) (s : List Char) :
    fill (first ++ second) s = fill second (fill first s) :=
  List.foldl_append

/-- **Names that do not occur** are not filled in. -/
theorem fill_of_absent {entries : List Entry} {s : List Char}
    (h : ∀ e ∈ entries, occursIn e.1 s = false) : fill entries s = s := by
  induction entries with
  | nil => rfl
  | cons e rest ih =>
    calc fill (e :: rest) s = fill rest (replaceAll e.1 e.2 s) := rfl
      _ = fill rest s := by rw [replaceAll_of_absent (h e List.mem_cons_self)]
      _ = s := ih fun e' he => h e' (List.mem_cons_of_mem _ he)

/-! ## Pieces -/

/-- A name as it is written behind an opening. -/
def opened (opening name : List Char) : List Char := opening ++ name ++ ['\x7d']

theorem text_piecesAux (opening s : List Char) (n : Nat) :
    (piecesAux opening s n).flatMap (Piece.text (opened opening)) = s.drop n := by
  induction s generalizing n with
  | nil => simp [piecesAux]
  | cons c s ih =>
    cases n with
    | succ n => exact ih n
    | zero =>
      rw [piecesAux]
      split
      · next name hname =>
        obtain ⟨-, -, rest, hrest⟩ := hole?_eq_some_iff.mp hname
        have hsplit : c :: s = opened opening name ++ rest := by
          rw [hrest]
          simp [opened]
        -- what is skipped is the rest of the name
        have hbehind : s.drop (opening.length + name.length) = rest := by
          have hdrop : (c :: s).drop (opened opening name).length = rest := by
            rw [hsplit, List.drop_left]
          simpa [opened, ← Nat.add_assoc] using hdrop
        rw [List.flatMap_cons, ih, hbehind, List.drop_zero]
        exact hsplit.symm
      · rw [List.flatMap_cons, ih]
        rfl

/-- **The pieces of a text**, written out again, are the text. -/
theorem text_pieces (opening s : List Char) :
    (pieces opening s).flatMap (Piece.text (opened opening)) = s :=
  text_piecesAux opening s 0

/-- Pieces are put together where each name has its text. -/
theorem join_of_texts {value : List Char → Except Fault (List Char)}
    {text : List Char → List Char} {ps : List Piece}
    (h : ∀ name, .hole name ∈ ps → value name = .ok (text name)) :
    join value ps = .ok (ps.flatMap (Piece.text text)) := by
  induction ps with
  | nil => rfl
  | cons p ps ih =>
    have hrest := ih fun name hname => h name (List.mem_cons_of_mem _ hname)
    cases p with
    | char c =>
      rw [join, hrest]
      rfl
    | hole name =>
      rw [join, h name List.mem_cons_self, hrest]
      rfl

theorem exists_join {value : List Char → Except Fault (List Char)} {ps : List Piece}
    (h : ∀ name, .hole name ∈ ps → ∃ s, value name = .ok s) : ∃ s, join value ps = .ok s := by
  choose! text htext using h
  exact ⟨_, join_of_texts htext⟩

/-- **Names that are kept as they are written** leave the whole text as it is. -/
theorem join_pieces {value : List Char → Except Fault (List Char)} {opening s : List Char}
    (h : ∀ name, .hole name ∈ pieces opening s → value name = .ok (opened opening name)) :
    join value (pieces opening s) = .ok s := by
  rw [join_of_texts h, text_pieces]

/-- A text that names no stored value is not changed by them. -/
theorem fillStored_of_absent {s : List Char} (h : ∀ key, .hole key ∉ pieces storageOpening s)
    (store : Store) (user : String) : fillStored store user s = .ok s :=
  join_pieces fun name hname => absurd hname (h name)

/-! ## A part between others -/

section

variable {opening before after s t : List Char}

/-- Pieces put together one part after the other. -/
theorem join_append_ok {value : List Char → Except Fault (List Char)} {ps qs : List Piece}
    (hp : join value ps = .ok s) (hq : join value qs = .ok t) :
    join value (ps ++ qs) = .ok (s ++ t) := by
  induction ps generalizing s with
  | nil =>
    obtain rfl := Except.ok.inj hp
    exact hq
  | cons p ps ih =>
    cases p with
    | char c =>
      obtain ⟨rest, hrest, hp⟩ := exists_of_bind_ok hp
      obtain rfl := Except.ok.inj hp
      rw [List.cons_append, join, ih hrest]
      rfl
    | hole name =>
      obtain ⟨v, hv, hp⟩ := exists_of_bind_ok hp
      obtain ⟨rest, hrest, hp⟩ := exists_of_bind_ok hp
      obtain rfl := Except.ok.inj hp
      rw [List.cons_append, join, hv, ih hrest, List.append_assoc]
      rfl

theorem join_chars (value : List Char → Except Fault (List Char)) (s : List Char) :
    join value (s.map .char) = .ok s := by
  induction s with
  | nil => rfl
  | cons c s ih =>
    rw [List.map_cons, join, ih]
    rfl

/-- **A text in which no name is found** is its characters. -/
theorem pieces_of_nameless (h : ∀ t, t <:+ s → hole? opening t = none) :
    pieces opening s = s.map .char := by
  induction s with
  | nil => rfl
  | cons c s ih =>
    rw [pieces_cons (h _ List.suffix_rfl), ih fun t ht => h t (ht.trans (List.suffix_cons c s))]
    rfl

/-- **A text that names nothing.** -/
def Nameless (s : List Char) : Prop := ∀ t ∈ s.tails, hole? ['\x7b'] t = none

instance (s : List Char) : Decidable (Nameless s) :=
  inferInstanceAs (Decidable (∀ t ∈ s.tails, hole? ['\x7b'] t = none))

theorem Nameless.pieces_eq (h : Nameless s)
    (hopening : opening.head? = some '\x7b') (hclosed : '\x7d' ∉ opening) :
    pieces opening s = s.map .char := by
  obtain ⟨opening, rfl⟩ := List.head?_eq_some_iff.mp hopening
  refine pieces_of_nameless fun t ht => Option.eq_none_iff_forall_ne_some.mpr fun name hname => ?_
  obtain ⟨hne, hclean, rest, rfl⟩ := hole?_eq_some_iff.mp hname
  -- behind its brace, the rest of the opening would be the start of a name
  have hhole : hole? ['\x7b'] ('\x7b' :: opening ++ (name ++ '\x7d' :: rest)) =
      some (opening ++ name) := by
    refine hole?_eq_some_iff.mpr ⟨by simp [hne], fun hm => ?_, rest, by simp⟩
    rcases List.mem_append.mp hm with hm | hm
    · exact hclosed (List.mem_cons_of_mem _ hm)
    · exact hclean hm
  rw [h _ ((List.mem_tails _ _).mpr ht)] at hhole
  cases hhole

/-- A name does not reach into a part without closing braces. -/
theorem hole?_append (h : '\x7d' ∉ after) (s : List Char) :
    hole? opening (s ++ after) = hole? opening s := by
  refine Option.ext fun name => ?_
  rw [hole?_eq_some_iff, hole?_eq_some_iff]
  refine and_congr_right fun _ => and_congr_right fun _ => ?_
  constructor
  · rintro ⟨t, ht⟩
    obtain ⟨rest, rfl⟩ := exists_of_append_closed (a := opening ++ name) (t := t) h (by simpa using ht)
    exact ⟨rest, by simp⟩
  · rintro ⟨t, rfl⟩
    exact ⟨t ++ after, by simp⟩

theorem piecesAux_append (h : '\x7d' ∉ after) {n : Nat} (hn : n ≤ s.length) :
    piecesAux opening (s ++ after) n = piecesAux opening s n ++ after.map .char := by
  induction s generalizing n with
  | nil =>
    obtain rfl : n = 0 := Nat.le_zero.mp hn
    refine pieces_of_nameless fun t ht => Option.eq_none_iff_forall_ne_some.mpr fun name hname => ?_
    obtain ⟨-, -, rest, rfl⟩ := hole?_eq_some_iff.mp hname
    exact h (ht.subset (by simp))
  | cons c s ih =>
    cases n with
    | succ n => exact ih (Nat.le_of_succ_le_succ hn)
    | zero =>
      have hhole : hole? opening (c :: (s ++ after)) = hole? opening (c :: s) :=
        hole?_append h (c :: s)
      rw [List.cons_append, piecesAux, piecesAux, hhole]
      split
      · next name hname =>
        obtain ⟨-, -, rest, hrest⟩ := hole?_eq_some_iff.mp hname
        have hlength : (c :: s).length = opening.length + (name.length + (rest.length + 1)) := by
          rw [hrest]
          simp
        rw [List.length_cons] at hlength
        rw [ih (by omega), List.cons_append]
      · rw [ih (Nat.zero_le _), List.cons_append]

/-- **Names are found and replaced in a part as if it stood alone**, where there is no opening brace
before and no closing brace behind. -/
theorem join_between {value : List Char → Except Fault (List Char)}
    (hopening : opening.head? = some '\x7b') (hbefore : '\x7b' ∉ before) (hafter : '\x7d' ∉ after)
    (h : join value (pieces opening s) = .ok t) :
    join value (pieces opening (before ++ (s ++ after))) = .ok (before ++ (t ++ after)) := by
  have hsplit : pieces opening (s ++ after) = pieces opening s ++ after.map .char :=
    piecesAux_append hafter (Nat.zero_le _)
  rw [pieces_append hopening hbefore, hsplit]
  exact join_append_ok (join_chars _ _) (join_append_ok h (join_chars _ _))

/-- A name occurs in a part as if it stood alone. -/
theorem occursIn_between (hbefore : '\x7b' ∉ before) (hafter : '\x7d' ∉ after) (k : List Char) :
    occursIn (braced k) (before ++ (s ++ after)) = occursIn (braced k) s := by
  rw [braced, List.cons_append, occursIn_append hbefore, ← List.cons_append,
    occursIn_append_closed hafter]

/-- Where there are braces around one name only, no other name occurs. -/
theorem eq_of_occursIn_braced {k name : List Char} (hname : Braceless name)
    (h : occursIn (braced k) (braced name) = true) : k = name := by
  obtain ⟨a, b, hab⟩ := occursIn_iff.mp h
  have hopen : ([] : List Char) ++ '\x7b' :: (name ++ ['\x7d']) = a ++ '\x7b' :: (k ++ '\x7d' :: b) := by
    rw [← braced_append k b]
    exact hab
  obtain ⟨-, -, hclose⟩ :=
    (List.append_cons_inj_of_notMem List.not_mem_nil hname.notMem_closed).mp hopen
  exact ((List.append_cons_inj_of_notMem hname.2 List.not_mem_nil).mp hclose).1.symm

theorem occursIn_braced_of_ne {k name : List Char} (hname : Braceless name) (h : k ≠ name) :
    occursIn (braced k) (braced name) = false :=
  Bool.eq_false_iff.mpr fun hoccurs => h (eq_of_occursIn_braced hname hoccurs)

/-- **A name between two parts is filled in at its turn**, where no entry before has a name that occurs
in the template and none behind one that occurs in its value. -/
theorem fill_between {earlier later : List Entry} {name value : List Char}
    (hbefore : Braceless before) (hafter : Braceless after)
    (hearlier : ∀ e ∈ earlier, ∃ k, e.1 = braced k ∧ occursIn (braced k) (braced name) = false)
    (hlater : ∀ e ∈ later, ∃ k, e.1 = braced k ∧ occursIn (braced k) value = false) :
    fill (earlier ++ (braced name, value) :: later) (before ++ (braced name ++ after)) =
      before ++ (value ++ after) := by
  have hfirst : fill earlier (before ++ (braced name ++ after)) =
      before ++ (braced name ++ after) := by
    refine fill_of_absent fun e he => ?_
    obtain ⟨k, hk, habsent⟩ := hearlier e he
    rw [hk, occursIn_between hbefore.1 hafter.2, habsent]
  have hturn : replaceAll (braced name) value (before ++ (braced name ++ after)) =
      before ++ (value ++ after) := by
    have hbraced : braced name = '\x7b' :: (name ++ ['\x7d']) := rfl
    rw [hbraced, replaceAll_append hbefore.1, ← hbraced, replaceAll_self_append (braced_ne_nil name),
      hbraced, replaceAll_of_absent (occursIn_of_notMem hafter.1)]
  have hlast : fill later (before ++ (value ++ after)) = before ++ (value ++ after) := by
    refine fill_of_absent fun e he => ?_
    obtain ⟨k, hk, habsent⟩ := hlater e he
    rw [hk, occursIn_between hbefore.1 hafter.2, habsent]
  calc fill (earlier ++ (braced name, value) :: later) (before ++ (braced name ++ after))
      = fill ((braced name, value) :: later) (before ++ (braced name ++ after)) := by
        rw [fill_append, hfirst]
    _ = fill later (replaceAll (braced name) value (before ++ (braced name ++ after))) := rfl
    _ = before ++ (value ++ after) := by rw [hturn, hlast]

end

/-! ## Names -/

/-- The names of what is known of the message and the clock, in the order of their turns. -/
def knownNames : List String :=
  ["user_id", "group_id", "message_id", "content", "message", "date", "today", "time", "datetime",
    "timestamp", "year", "month", "day", "hour", "minute", "weekday", "weekday_cn", "at_user"]

theorem keys_of_builtins {o : Occasion} {zone : Zone} {now : Moment} {known : List Entry}
    (h : builtins o zone now = .ok known) :
    known.map Prod.fst = knownNames.map fun name => braced name.toList := by
  obtain ⟨x, -, h⟩ := exists_of_bind_ok h
  obtain ⟨n, -, h⟩ := exists_of_bind_ok h
  obtain rfl := Except.ok.inj h
  rfl

theorem exists_of_mem_capturesFrom {i : Nat} {values : List Value} {entries : List Entry}
    (h : capturesFrom i values = .ok entries) {e : Entry} (he : e ∈ entries) :
    ∃ digits, e.1 = braced ('$' :: digits) := by
  induction values generalizing i entries with
  | nil =>
    obtain rfl := Except.ok.inj h
    exact absurd he List.not_mem_nil
  | cons v rest ih =>
    obtain ⟨s, -, h⟩ := exists_of_bind_ok h
    obtain ⟨others, hothers, h⟩ := exists_of_bind_ok h
    obtain rfl := Except.ok.inj h
    rcases List.mem_cons.mp he with rfl | he
    · exact ⟨_, rfl⟩
    · exact ih hothers he

/-- The names of captures begin with a sign of their own. -/
theorem exists_of_mem_captures {context : Table Value} {captured : List Entry}
    (h : captures context = .ok captured) {e : Entry} (he : e ∈ captured) :
    ∃ digits, e.1 = braced ('$' :: digits) := by
  unfold captures at h
  split at h
  · split at h
    · obtain ⟨values, -, h⟩ := exists_of_bind_ok h
      exact exists_of_mem_capturesFrom h he
    · obtain rfl := Except.ok.inj h
      exact absurd he List.not_mem_nil
  · obtain rfl := Except.ok.inj h
    exact absurd he List.not_mem_nil

/-- What is filled in for the variables are the texts of those that stand in the table. -/
theorem exists_of_mem_contextEntries {context : Table Value} {entries : List Entry}
    (h : contextEntries context = .ok entries) {e : Entry} (he : e ∈ entries) :
    ∃ x ∈ context, reservedNames.contains x.1 = false ∧
      ∃ s, x.2.toText = .ok s ∧ e = entry x.1 s := by
  induction context generalizing entries with
  | nil =>
    obtain rfl := Except.ok.inj h
    exact absurd he List.not_mem_nil
  | cons first rest ih =>
    obtain ⟨key, v⟩ := first
    unfold contextEntries at h
    split at h
    · obtain ⟨x, hx, hrest⟩ := ih h he
      exact ⟨x, List.mem_cons_of_mem _ hx, hrest⟩
    · next hreserved =>
      obtain ⟨s, hs, h⟩ := exists_of_bind_ok h
      obtain ⟨others, hothers, h⟩ := exists_of_bind_ok h
      obtain rfl := Except.ok.inj h
      rcases List.mem_cons.mp he with rfl | he
      · exact ⟨(key, v), List.mem_cons_self, by simpa using hreserved, s, hs, rfl⟩
      · obtain ⟨x, hx, hrest⟩ := ih hothers he
        exact ⟨x, List.mem_cons_of_mem _ hx, hrest⟩

/-! ## Rendering in one step -/

/-- A template without an opening brace stands for itself. -/
theorem render_plain {template : String} (h : template.toList.contains '\x7b' = false)
    (o : Occasion) (w : World) : render o template w = (.done template, w) := by
  unfold render
  rw [h]
  rfl

/-- The throws of the dice that a template names. -/
def thrown (template : List Char) (d : Dice) : List (String × Nat) × Dice :=
  throws (diceNames.filter fun die => occursIn (braced die.1.toList) template) d

/-- Dice that are not named are not thrown. -/
theorem thrown_of_absent {template : List Char}
    (h : ∀ die ∈ diceNames, occursIn (braced die.1.toList) template = false) (d : Dice) :
    thrown template d = ([], d) := by
  have hnone : diceNames.filter (fun die => occursIn (braced die.1.toList) template) = [] :=
    List.filter_eq_nil_iff.mpr fun die hdie => Bool.eq_false_iff.mp (h die hdie)
  rw [thrown, hnone]
  rfl

/-- **The passes over a template**: what is known beforehand, the captures, the variables, and at
last the stored values. -/
def passes (o : Occasion) (w : World) (known : List Entry) (template : List Char) :
    Except Fault (List Char) := do
  let captured ← captures w.context
  let named ← contextEntries w.context
  fillStored w.store o.event.userId (fill (known ++ captured ++ named) template)

/-- **Rendering in one step.** The dice that the template names are thrown, and nothing else of the
world changes. -/
theorem run_render {o : Occasion} {template : String} {w : World} {known : List Entry}
    (hbrace : template.toList.contains '\x7b' = true) (hknown : builtins o w.zone w.now = .ok known) :
    render o template w =
      let faces := thrown template.toList w.dice
      Act.of ((passes o w (known ++ faceEntries faces.1) template.toList).map String.ofList)
        { w with dice := faces.2 } := by
  have hlook : (Act.look : Act World World) w = (.done w, w) := rfl
  unfold render passes
  rw [hbrace]
  simp only [Bool.not_true, Bool.false_eq_true, if_false]
  rw [Act.run_bind_done hlook, Act.run_bind_done (Act.run_of_ok hknown w),
    Act.run_bind_done (run_dice _ _ _)]
  rcases captures w.context with f | captured
  · rfl
  rcases contextEntries w.context with f | named
  · rfl
  rw [Act.run_bind_done (Act.run_of_ok rfl _), Act.run_bind_done (Act.run_of_ok rfl _)]
  simp only [thrown, bind, Except.bind]
  rcases fillStored w.store o.event.userId _ with f | s <;> rfl

/-- Where the clock has no timestamp, no template with a brace can be rendered. -/
theorem run_render_error {o : Occasion} {template : String} {w : World} {f : Fault}
    (hbrace : template.toList.contains '\x7b' = true) (hknown : builtins o w.zone w.now = .error f) :
    render o template w = (.failed f, w) := by
  have hlook : (Act.look : Act World World) w = (.done w, w) := rfl
  unfold render
  rw [hbrace]
  simp only [Bool.not_true, Bool.false_eq_true, if_false]
  rw [Act.run_bind_done hlook, Act.run_bind_failed (Act.run_of_error hknown w)]

/-- Of the world, rendering changes chance only. -/
theorem render_snd (o : Occasion) (template : String) (w : World) :
    ∃ dice, (render o template w).2 = { w with dice } := by
  cases hbrace : template.toList.contains '\x7b' with
  | false => exact ⟨w.dice, by rw [render_plain hbrace]⟩
  | true =>
    rcases hknown : builtins o w.zone w.now with f | known
    · exact ⟨w.dice, by rw [run_render_error hbrace hknown]⟩
    · refine ⟨(thrown template.toList w.dice).2, ?_⟩
      rw [run_render hbrace hknown]
      exact Act.of_snd _ _

/-- **Looking up paths in one step.** -/
theorem run_renderJson {o : Occasion} {template text : String} {w u : World} {b : Bool}
    {filled : List Char} (hrender : render o template w = (.done text, u))
    (hpaths : hasPaths (u.valueOf "api_json") = .ok b)
    (hfilled : join (pathText (u.valueOf "api_json")) (pieces ['\x7b'] text.toList) = .ok filled) :
    renderJson o template w = (.done (if b then String.ofList filled else text), u) := by
  have hlook : (Act.look : Act World World) u = (.done u, u) := rfl
  unfold renderJson
  rw [Act.run_bind_done hrender, Act.run_bind_done hlook,
    Act.run_bind_done (Act.run_of_ok hpaths u)]
  cases b with
  | false => rfl
  | true => exact Act.run_bind_done (Act.run_of_ok hfilled u)

/-! ## Where everything can be rendered -/

theorem exists_contextEntries {context : Table Value}
    (h : ∀ e ∈ context, reservedNames.contains e.1 = false → ∃ s, e.2.toText = .ok s) :
    ∃ entries, contextEntries context = .ok entries := by
  induction context with
  | nil => exact ⟨[], rfl⟩
  | cons e rest ih =>
    obtain ⟨key, v⟩ := e
    obtain ⟨entries, hentries⟩ := ih fun e he => h e (List.mem_cons_of_mem _ he)
    unfold contextEntries
    cases hreserved : reservedNames.contains key with
    | true => exact ⟨entries, hentries⟩
    | false =>
      obtain ⟨s, hs⟩ := h (key, v) List.mem_cons_self hreserved
      exact ⟨entry key s :: entries, by simp only [hs, hentries]; rfl⟩

/-- **A world in which every template can be rendered.** -/
structure Renderable (o : Occasion) (w : World) : Prop where
  /-- the clock shows a time of the calendar -/
  clock : w.now.isValid = true
  /-- and one that has a timestamp -/
  placed : w.seconds?.isSome
  /-- the captures can be filled in -/
  captures : ∃ captured, captures w.context = .ok captured
  /-- variables have texts, but for those that are never filled in -/
  context : ∀ e ∈ w.context, reservedNames.contains e.1 = false → ∃ s, e.2.toText = .ok s
  /-- stored values have texts -/
  stored : ∀ key, ∃ s, (w.store.userValue o.event.userId key (.text "")).toText = .ok s

namespace Renderable

variable {o : Occasion} {w u : World} (h : Renderable o w)

include h

/-- **Every template is rendered**, and only chance is used up by it. -/
theorem exists_render (template : String) :
    ∃ text dice, render o template w = (.done text, { w with dice }) := by
  cases hbrace : template.toList.contains '\x7b' with
  | false => exact ⟨template, w.dice, render_plain hbrace o w⟩
  | true =>
    obtain ⟨known, hknown⟩ := exists_builtins o h.clock h.placed
    obtain ⟨captured, hcaptured⟩ := h.captures
    obtain ⟨named, hnamed⟩ := exists_contextEntries h.context
    have hstored : ∀ key, ∃ s, storedText w.store o.event.userId key = .ok s := by
      intro key
      obtain ⟨s, hs⟩ := h.stored (String.ofList key)
      exact ⟨s.toList, by rw [storedText, hs]; rfl⟩
    rw [run_render hbrace hknown]
    obtain ⟨s, hs⟩ : ∃ s, join (storedText w.store o.event.userId) (pieces storageOpening
        (fill (known ++ faceEntries (thrown template.toList w.dice).1 ++ captured ++ named)
          template.toList)) = .ok s := exists_join fun name _ => hstored name
    refine ⟨String.ofList s, (thrown template.toList w.dice).2, Act.run_of_ok ?_ _⟩
    simp only [passes, hcaptured, hnamed, bind, Except.bind, fillStored, hs]
    rfl

/-- What a template does not read may change. -/
theorem of_same (hcontext : u.context = w.context) (hstore : u.store = w.store)
    (hnow : u.now = w.now) (hzone : u.zone = w.zone) : Renderable o u := by
  have hseconds : u.seconds? = w.seconds? := by rw [World.seconds?, hnow, hzone, World.seconds?]
  obtain ⟨hclock, hplaced, hcaptures, hvariables, hstored⟩ := h
  exact ⟨hnow ▸ hclock, hseconds ▸ hplaced, hcontext ▸ hcaptures, hcontext ▸ hvariables,
    hstore ▸ hstored⟩

/-- Another variable that has a text may be written. -/
theorem assign {name : String} {v : Value} (hname : name ≠ "regex_groups")
    (hv : reservedNames.contains name = false → ∃ s, v.toText = .ok s) :
    Renderable o { w with context := w.context.insert name v } where
  clock := h.clock
  placed := h.placed
  captures := by
    obtain ⟨captured, hcaptured⟩ := h.captures
    refine ⟨captured, ?_⟩
    rw [← hcaptured, Template.captures, Table.get?_insert, if_neg hname]
    rfl
  context e he := by
    rcases Table.mem_of_mem_insert he with rfl | he
    · exact hv
    · exact h.context e he
  stored := h.stored

end Renderable

end ChatFlow.Template
