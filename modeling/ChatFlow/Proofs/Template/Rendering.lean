import ChatFlow.Proofs.Clock.Timestamp
import ChatFlow.Proofs.Results
import ChatFlow.Proofs.Template.Substitution

/-!
# Rendering as one substitution

* `builtins_clean`, `capture?`, `contextText?` — what the entries of each kind say about a name;
* `throws`, `run_dice` — one throw for each die that a template names, in the order of the dice;
* `meaning` — **what a name stands for**: the first that applies of what is known, dice, captures,
  variables and stored values, and else the name as it is written;
* `render_source` — **rendering puts the meaning of every name into its place** and leaves
  everything else as it is.
-/

namespace ChatFlow.Template

/-! ## Texts without braces -/

theorem braceless_iff {s : List Char} : Braceless s ↔ ∀ c ∈ s, c ≠ '\x7b' ∧ c ≠ '\x7d' := by
  constructor
  · intro h c hc
    exact ⟨fun he => h.1 (he ▸ hc), fun he => h.2 (he ▸ hc)⟩
  · intro h
    exact ⟨fun hm => (h _ hm).1 rfl, fun hm => (h _ hm).2 rfl⟩

theorem Braceless.cons {c : Char} {s : List Char} (hc : c ≠ '\x7b' ∧ c ≠ '\x7d')
    (h : Braceless s) : Braceless (c :: s) := by
  rw [braceless_iff] at h ⊢
  intro c' hc'
  rcases List.mem_cons.mp hc' with rfl | hm
  · exact hc
  · exact h c' hm

theorem braceless_natDigits (n : Nat) : Braceless (natDigits n) := by
  rw [braceless_iff]
  intro c hc
  have hdigit := isDigit_of_mem_natDigits hc
  constructor <;> rintro rfl <;> revert hdigit <;> decide

theorem braceless_toString (n : Nat) : Braceless (toString n).toList := by
  have : (toString n).toList = natDigits n := Nat.toList_repr
  rw [this]
  exact braceless_natDigits n

theorem braceless_intText (n : Int) : Braceless (intText n).toList := by
  unfold intText
  split
  · rw [String.toList_ofList]
    exact (braceless_natDigits _).cons (by decide)
  · rw [String.toList_ofList]
    exact braceless_natDigits _

theorem braceless_padded (width n : Nat) : Braceless (Moment.padded width n) := by
  refine Braceless.append ?_ (braceless_natDigits n)
  rw [braceless_iff]
  intro c hc
  rw [(List.mem_replicate.mp hc).2]
  decide

theorem braceless_dateChars (width : Nat) (m : Moment) : Braceless (m.dateChars width) :=
  ((braceless_padded _ _).append ((braceless_padded _ _).cons (by decide))).append
    ((braceless_padded _ _).cons (by decide))

theorem braceless_timeChars (m : Moment) : Braceless m.timeChars :=
  ((braceless_padded _ _).append ((braceless_padded _ _).cons (by decide))).append
    ((braceless_padded _ _).cons (by decide))

theorem braceless_dayName (n : Nat) : Braceless (dayNames.getD n "").toList := by
  have hall : ∀ name ∈ "" :: dayNames, Braceless name.toList := by decide
  rw [List.getD_eq_getElem?_getD]
  rcases hget : dayNames[n]? with _ | name
  · exact hall "" List.mem_cons_self
  · exact hall name (List.mem_cons_of_mem _ (List.mem_of_getElem? hget))

/-! ## The message and the clock -/

/-- An entry is clean if its name and its text are. -/
theorem entry_clean {name value : String} (hname : Braceless name.toList)
    (hvalue : Braceless value.toList) : (entry name value).Clean :=
  ⟨name.toList, rfl, hname, hvalue⟩

/-- **A message whose ids and text have no braces.** -/
structure Occasion.Plain (o : Occasion) : Prop where
  text : Braceless o.text.toList
  user : Braceless o.event.userId.toList
  group : Braceless (o.event.groupId.getD "").toList
  message : Braceless (o.event.messageId.getD "").toList

theorem exists_builtins (o : Occasion) {zone : Zone} {now : Moment} (hvalid : now.isValid = true)
    (hplaced : (zone.seconds? now).isSome) : ∃ known, builtins o zone now = .ok known := by
  obtain ⟨x, n, htimestamp, hseconds⟩ := Moment.timestamp_toInteger hvalid hplaced
  exact ⟨_, by simp only [builtins, htimestamp, hseconds, bind, Except.bind]; rfl⟩

/-- **What is known of the message and the clock** has no braces where the message has none. -/
theorem clean_of_builtins {o : Occasion} (ho : Occasion.Plain o) {zone : Zone} {now : Moment}
    {known : List Entry} (hknown : builtins o zone now = .ok known) : ∀ e ∈ known, Entry.Clean e := by
  have hat : Braceless ("[CQ:at,qq=" ++ o.event.userId ++ "]").toList := by
    rw [String.toList_append, String.toList_append]
    exact (Braceless.append (by decide) ho.user).append (by decide)
  have hdate : Braceless now.dateText.toList := by
    rw [Moment.dateText, String.toList_ofList]
    exact braceless_dateChars 4 now
  have htime : Braceless now.timeText.toList := by
    rw [Moment.timeText, String.toList_ofList]
    exact braceless_timeChars now
  have hdateTime : Braceless now.dateTimeText.toList := by
    rw [Moment.dateTimeText, String.toList_ofList]
    exact (braceless_dateChars 1 now).append ((braceless_timeChars now).cons (by decide))
  obtain ⟨x, -, hknown⟩ := exists_of_bind_ok hknown
  obtain ⟨n, -, hknown⟩ := exists_of_bind_ok hknown
  obtain rfl := Except.ok.inj hknown
  simp only [List.forall_mem_cons, List.not_mem_nil, false_implies, implies_true, and_true]
  exact ⟨entry_clean (by decide) ho.user, entry_clean (by decide) ho.group,
    entry_clean (by decide) ho.message, entry_clean (by decide) ho.text,
    entry_clean (by decide) ho.text, entry_clean (by decide) hdate, entry_clean (by decide) hdate,
    entry_clean (by decide) htime, entry_clean (by decide) hdateTime,
    entry_clean (by decide) (braceless_intText n), entry_clean (by decide) (braceless_toString _),
    entry_clean (by decide) (braceless_toString _), entry_clean (by decide) (braceless_toString _),
    entry_clean (by decide) (braceless_toString _), entry_clean (by decide) (braceless_toString _),
    entry_clean (by decide) (braceless_toString _), entry_clean (by decide) (braceless_dayName _),
    entry_clean (by decide) hat⟩

/-- **What is known of the message and the clock** is there where the clock has a timestamp, and has no
braces where the message has none. -/
theorem builtins_clean {o : Occasion} (ho : Occasion.Plain o) {zone : Zone} {now : Moment}
    (hvalid : now.isValid = true) (hplaced : (zone.seconds? now).isSome) :
    ∃ known, builtins o zone now = .ok known ∧ ∀ e ∈ known, Entry.Clean e := by
  obtain ⟨known, hknown⟩ := exists_builtins o hvalid hplaced
  exact ⟨known, hknown, clean_of_builtins ho hknown⟩

/-! ## Captures -/

/-- A capture as a value; a group that took no part is nothing. -/
def groupValue : Option String → Value
  | some s => .text s
  | none => .null

/-- The text of a capture, blank for a group that took no part. -/
def groupText (group : Option String) : List Char := (group.getD "").toList

/-- **The captures that a run goes by.** -/
def Captured (context : Table Value) (groups : List (Option String)) : Prop :=
  match context.get? "regex_groups" with
  | some v => v = .list (groups.map groupValue)
  | none => groups = []

/-- The number that a name of a capture counts. -/
def captureIndex? : List Char → Option Nat
  | '$' :: digits =>
    let i := Json.digitsValue digits
    if natDigits i = digits then some i else none
  | _ => none

/-- **The capture that a name asks for**, counted from one. -/
def capture? (groups : List (Option String)) (name : List Char) : Option (List Char) :=
  match captureIndex? name with
  | some (i + 1) => (groups[i]?).map groupText
  | _ => none

/-- The entries of captures from a number on. -/
def groupEntries : Nat → List (Option String) → List Entry
  | _, [] => []
  | i, g :: rest => (braced ('$' :: natDigits i), groupText g) :: groupEntries (i + 1) rest

theorem captureIndex?_eq_some_iff {name : List Char} {i : Nat} :
    captureIndex? name = some i ↔ name = '$' :: natDigits i := by
  unfold captureIndex?
  constructor
  · intro h
    split at h
    · next digits =>
      simp only [Option.ite_none_right_eq_some, Option.some.injEq] at h
      rw [← h.2, h.1]
    · cases h
  · rintro rfl
    simp [digitsValue_natDigits]

theorem captureText_groupValue (group : Option String) :
    captureText (groupValue group) = .ok (groupText group) := by
  cases group <;> rfl

theorem capturesFrom_groups (i : Nat) (groups : List (Option String)) :
    capturesFrom i (groups.map groupValue) = .ok (groupEntries i groups) := by
  induction groups generalizing i with
  | nil => rfl
  | cons g rest ih =>
    rw [List.map_cons, capturesFrom, captureText_groupValue, ih]
    rfl

/-- The entries of captures are the captures of a run. -/
theorem captures_groups {context : Table Value} {groups : List (Option String)}
    (h : Captured context groups) : captures context = .ok (groupEntries 1 groups) := by
  unfold Captured at h
  unfold captures
  cases hget : context.get? "regex_groups" with
  | none =>
    simp only [hget] at h
    rw [h]
    rfl
  | some v =>
    simp only [hget] at h
    subst h
    cases groups with
    | nil => rfl
    | cons g rest => exact capturesFrom_groups 1 (g :: rest)

theorem groupEntries_clean {groups : List (Option String)}
    (h : ∀ g ∈ groups, Braceless (groupText g)) (i : Nat) :
    ∀ e ∈ groupEntries i groups, Entry.Clean e := by
  induction groups generalizing i with
  | nil => simp [groupEntries]
  | cons g rest ih =>
    intro e he
    rcases List.mem_cons.mp he with rfl | he
    · exact ⟨_, rfl, (braceless_natDigits i).cons (by decide), h g List.mem_cons_self⟩
    · exact ih (fun g' hg => h g' (List.mem_cons_of_mem _ hg)) (i + 1) e he

/-- A name is looked up among captures by the number it counts. -/
theorem lookup_groupEntries (i : Nat) (groups : List (Option String)) (name : List Char) :
    (groupEntries i groups).lookup (braced name) =
      (captureIndex? name).bind fun j => if i ≤ j then (groups[j - i]?).map groupText else none := by
  induction groups generalizing i with
  | nil => cases captureIndex? name <;> simp [groupEntries]
  | cons g rest ih =>
    rw [groupEntries, List.lookup_cons]
    by_cases hname : name = '$' :: natDigits i
    · rw [captureIndex?_eq_some_iff.mpr hname, hname]
      simp
    · have hkey : (braced name == braced ('$' :: natDigits i)) = false :=
        beq_eq_false_iff_ne.mpr fun h => hname (braced_injective h)
      rw [hkey, ih]
      rcases hindex : captureIndex? name with _ | j
      · rfl
      · have hne : j ≠ i := by
          rintro rfl
          exact hname (captureIndex?_eq_some_iff.mp hindex)
        simp only [Option.bind_some]
        by_cases hle : i + 1 ≤ j
        · rw [if_pos hle, if_pos (by omega), show j - i = (j - (i + 1)) + 1 by omega,
            List.getElem?_cons_succ]
        · rw [if_neg hle, if_neg (by omega)]

theorem lookup_captures (groups : List (Option String)) (name : List Char) :
    (groupEntries 1 groups).lookup (braced name) = capture? groups name := by
  rw [lookup_groupEntries, capture?]
  rcases captureIndex? name with _ | _ | i <;> simp

/-! ## Variables -/

/-- **The variable that a name asks for**, unless it is one that is never filled in. -/
def contextText? (context : Table Value) (name : List Char) : Option (List Char) :=
  if ["regex_groups", "api_binary"].contains (String.ofList name) then none
  else (context.get? (String.ofList name)).map shown

/-- **Variables that can be filled in**: their names have no braces, and but for those that are never
filled in they have texts, without braces. -/
def Presentable (context : Table Value) : Prop :=
  ∀ e ∈ context, Braceless e.1.toList ∧
    (["regex_groups", "api_binary"].contains e.1 = false →
      ∃ s, e.2.toText = .ok s ∧ Braceless s.toList)

theorem contextEntries_clean {context : Table Value} (h : Presentable context) :
    ∃ entries, contextEntries context = .ok entries ∧ (∀ e ∈ entries, Entry.Clean e) ∧
      ∀ name, entries.lookup (braced name) = contextText? context name := by
  induction context with
  | nil => exact ⟨[], rfl, by simp, fun name => by simp [contextText?, Table.get?]⟩
  | cons e rest ih =>
    obtain ⟨key, v⟩ := e
    obtain ⟨entries, hentries, hclean, hlookup⟩ := ih fun e he => h e (List.mem_cons_of_mem _ he)
    obtain ⟨hkey, htext⟩ := h (key, v) List.mem_cons_self
    have hnames : reservedNames = ["regex_groups", "api_binary"] := rfl
    rw [contextEntries, hnames]
    cases hreserved : ["regex_groups", "api_binary"].contains key with
    | true =>
      refine ⟨entries, hentries, hclean, fun name => ?_⟩
      rw [hlookup, contextText?, contextText?, Table.get?]
      by_cases hname : key = String.ofList name
      · rw [← hname, hreserved]
        rfl
      · rw [if_neg hname]
    | false =>
      obtain ⟨s, hs, hbraceless⟩ := htext hreserved
      refine ⟨entry key s :: entries, by simp [hs, hentries]; rfl, ?_, fun name => ?_⟩
      · exact List.forall_mem_cons.mpr ⟨entry_clean hkey hbraceless, hclean⟩
      · simp only [entry, List.lookup_cons, hlookup, contextText?, Table.get?]
        by_cases hname : key = String.ofList name
        · rw [if_pos hname, ← hname, hreserved]
          subst hname
          simp [shown, hs]
        · have hne : (braced name == braced key.toList) = false := by
            rw [beq_eq_false_iff_ne]
            intro hbraced
            exact hname (by rw [braced_injective hbraced, String.ofList_toList])
          rw [hne, if_neg hname]

/-! ## Dice -/

/-- **One throw for each die**, in order. -/
def throws : List (String × Nat) → Dice → List (String × Nat) × Dice
  | [], d => ([], d)
  | (name, sides) :: rest, d =>
    let (n, d) := d.die sides
    let (others, d) := throws rest d
    ((name, n) :: others, d)

/-- The dice that the names of a template ask for, and their sides. -/
def namedDice (ps : List Piece) : List (String × Nat) :=
  [("random", 100), ("random100", 100), ("random10", 10), ("random6", 6)].filter fun die =>
    .hole die.1.toList ∈ ps

/-- The entries of throws. -/
def faceEntries (faces : List (String × Nat)) : List Entry :=
  faces.map fun face => entry face.1 (toString face.2)

/-- **The throw that a name asks for.** -/
def face? (faces : List (String × Nat)) (name : List Char) : Option (List Char) :=
  (faces.lookup (String.ofList name)).map fun n => (toString n).toList

/-- The dice of a template are thrown once each, and nothing else of the world changes. -/
theorem run_dice (template : List Char) (names : List (String × Nat)) (w : World) :
    dice template names w =
      let thrown := throws (names.filter fun die => occursIn (braced die.1.toList) template) w.dice
      (.done (faceEntries thrown.1), { w with dice := thrown.2 }) := by
  induction names generalizing w with
  | nil => rfl
  | cons die rest ih =>
    obtain ⟨name, sides⟩ := die
    unfold dice
    cases hoccurs : occursIn (braced name.toList) template with
    | true =>
      have hdie : World.die sides w =
          (.done (w.dice.die sides).1, { w with dice := (w.dice.die sides).2 }) := rfl
      rw [if_pos rfl, Act.run_bind_done hdie, Act.run_bind_done (ih _)]
      simp only [List.filter_cons, hoccurs, if_true]
      rfl
    | false =>
      rw [if_neg Bool.false_ne_true, ih]
      simp only [List.filter_cons, hoccurs, Bool.false_eq_true, if_false]

theorem faceEntries_clean {faces : List (String × Nat)}
    (h : ∀ face ∈ faces, Braceless face.1.toList) : ∀ e ∈ faceEntries faces, Entry.Clean e := by
  intro e he
  obtain ⟨face, hface, rfl⟩ := List.mem_map.mp he
  exact entry_clean (h face hface) (braceless_toString face.2)

theorem throws_names (names : List (String × Nat)) (d : Dice) :
    (throws names d).1.map Prod.fst = names.map Prod.fst := by
  induction names generalizing d with
  | nil => rfl
  | cons die rest ih =>
    rw [throws]
    simp only [List.map_cons, ih]

theorem lookup_faceEntries (faces : List (String × Nat)) (name : List Char) :
    (faceEntries faces).lookup (braced name) = face? faces name := by
  induction faces with
  | nil => rfl
  | cons face rest ih =>
    obtain ⟨die, n⟩ := face
    have hsame : (braced name == braced die.toList) = (String.ofList name == die) := by
      rw [Bool.eq_iff_iff, beq_iff_eq, beq_iff_eq]
      constructor
      · intro h
        rw [braced_injective h, String.ofList_toList]
      · rintro rfl
        rw [String.toList_ofList]
    rw [faceEntries, List.map_cons, entry, List.lookup_cons, hsame, face?, List.lookup_cons]
    cases String.ofList name == die with
    | true => rfl
    | false => exact ih

/-! ## Rendering -/

/-- **What a name stands for**: the first that applies of what is known, the dice, the captures, the
variables and the stored values; a name that nothing applies to is left as it is written. -/
def meaning (known : List Entry) (faces : List (String × Nat)) (groups : List (Option String))
    (w : World) (user : String) (name : List Char) : List Char :=
  (known.lookup (braced name)
    <|> face? faces name
    <|> capture? groups name
    <|> contextText? w.context name
    <|> (stored? w.store user name).map shown).getD (braced name)

/-- **A template that can be filled in plainly**: nothing filled in holds a brace, stored values
aside, and everything filled in has a text. -/
structure Legible (o : Occasion) (w : World) (groups : List (Option String)) (ps : List Piece) :
    Prop where
  /-- the template is made of names and of text without braces -/
  plain : ∀ p ∈ ps, p.Plain
  /-- the message -/
  occasion : Occasion.Plain o
  /-- the clock shows a time of the calendar -/
  clock : w.now.isValid = true
  /-- and one that has a timestamp -/
  placed : w.seconds?.isSome
  /-- the captures are what the run goes by -/
  captured : Captured w.context groups
  /-- the captures -/
  groups : ∀ g ∈ groups, Braceless (groupText g)
  /-- the variables -/
  context : Presentable w.context
  /-- the stored values that the template names -/
  stored : ∀ name v, .hole name ∈ ps → stored? w.store o.event.userId name = some v →
    ∃ s, v.toText = .ok s

theorem text_chars (value : List Char → List Char) (s : List Char) :
    (s.map Piece.char).flatMap (Piece.text value) = s := by
  induction s with
  | nil => rfl
  | cons c s ih => rw [List.map_cons, List.flatMap_cons, ih]; rfl

/-- Replacing entries and then stored values gives every name its meaning. -/
theorem flatMap_filled_text {entries : List Entry} {value other : List Char → List Char}
    (h : ∀ name, value name = (entries.lookup (braced name)).getD (other name)) (ps : List Piece) :
    (ps.flatMap (Piece.filled entries)).flatMap (Piece.text other) =
      ps.flatMap (Piece.text value) := by
  rw [List.flatMap_assoc]
  congr 1
  funext p
  cases p with
  | char c => rfl
  | hole name =>
    simp only [Piece.filled, Piece.text, h]
    cases entries.lookup (braced name) with
    | none => exact List.append_nil _
    | some text => exact text_chars other text

/-- Replacing adds no name. -/
theorem mem_of_mem_filled {entries : List Entry} {ps : List Piece} {name : List Char}
    (h : .hole name ∈ ps.flatMap (Piece.filled entries)) : .hole name ∈ ps := by
  obtain ⟨p, hp, hname⟩ := List.mem_flatMap.mp h
  cases p with
  | char c => simp [Piece.filled] at hname
  | hole other =>
    unfold Piece.filled at hname
    rcases hl : entries.lookup (braced other) with _ | value
    · simp only [hl, List.mem_singleton] at hname
      exact hname ▸ hp
    · simp [hl] at hname

/-- A template without an opening brace has no names. -/
theorem eq_chars_of_notMem {ps : List Piece} (h : '\x7b' ∉ source ps) :
    ∃ s : List Char, ps = s.map .char := by
  induction ps with
  | nil => exact ⟨[], rfl⟩
  | cons p ps ih =>
    rw [source_cons, List.mem_append, not_or] at h
    obtain ⟨s, rfl⟩ := ih h.2
    cases p with
    | char c => exact ⟨c :: s, rfl⟩
    | hole name => exact absurd List.mem_cons_self h.1

/-- The dice found in a template are those that its names ask for. -/
theorem filter_occursIn {ps : List Piece} (hps : ∀ p ∈ ps, p.Plain) :
    diceNames.filter (fun die => occursIn (braced die.1.toList) (source ps)) = namedDice ps := by
  have hnames : ∀ die ∈ diceNames, Braceless die.1.toList := by decide
  refine List.filter_congr fun die hdie => ?_
  rw [Bool.eq_iff_iff, decide_eq_true_eq]
  exact occursIn_source (hnames die hdie) hps

/-- The names of dice have no braces. -/
theorem braceless_throws (ps : List Piece) (d : Dice) :
    ∀ face ∈ (throws (namedDice ps) d).1, Braceless face.1.toList := by
  have hnames : ∀ die ∈ diceNames, Braceless die.1.toList := by decide
  intro face hface
  have hmem : face.1 ∈ (namedDice ps).map Prod.fst := by
    rw [← throws_names _ d]
    exact List.mem_map_of_mem hface
  obtain ⟨die, hdie, hname⟩ := List.mem_map.mp hmem
  exact hname ▸ hnames die (List.mem_of_mem_filter hdie)

/-- **Rendering is the substitution of meanings.** Every name of the template is replaced by what it
stands for, independently of the others, each die that is named being thrown once; all other text
stays as it is, and so does the rest of the world. -/
theorem render_source {o : Occasion} {w : World} {groups : List (Option String)} {ps : List Piece}
    (h : Legible o w groups ps) :
    ∃ known, builtins o w.zone w.now = .ok known ∧
      let thrown := throws (namedDice ps) w.dice
      let value := meaning known thrown.1 groups w o.event.userId
      render o (String.ofList (source ps)) w =
        (.done (String.ofList (ps.flatMap (Piece.text value))), { w with dice := thrown.2 }) := by
  obtain ⟨known, hknown, hknownClean⟩ := builtins_clean h.occasion h.clock h.placed
  obtain ⟨named, hnamed, hnamedClean, hnamedLookup⟩ := contextEntries_clean h.context
  refine ⟨known, hknown, ?_⟩
  intro thrown value
  unfold render
  rw [String.toList_ofList]
  by_cases hbrace : '\x7b' ∈ source ps
  · rw [if_neg (by simpa using hbrace)]
    -- what each step looks at is still there, as only chance is used up on the way
    have hdice := run_dice (source ps) diceNames w
    rw [filter_occursIn h.plain] at hdice
    obtain ⟨entries, hentries⟩ :
      ∃ entries, entries = known ++ faceEntries thrown.1 ++ groupEntries 1 groups ++ named := ⟨_, rfl⟩
    have hclean : ∀ e ∈ entries, Entry.Clean e := by
      simp only [hentries, List.mem_append]
      rintro e (((he | he) | he) | he)
      · exact hknownClean e he
      · exact faceEntries_clean (braceless_throws ps w.dice) e he
      · exact groupEntries_clean h.groups 1 e he
      · exact hnamedClean e he
    have hvalue : ∀ name, value name =
        (entries.lookup (braced name)).getD (storedOr w.store o.event.userId name) := by
      intro name
      simp only [value, meaning, hentries, List.lookup_append, lookup_faceEntries,
        lookup_captures, hnamedLookup, storedOr]
      cases known.lookup (braced name) <;> cases face? thrown.1 name <;>
        cases capture? groups name <;> cases contextText? w.context name <;> rfl
    have hfilled : fill entries (source ps) = source (ps.flatMap (Piece.filled entries)) :=
      fill_source hclean h.plain
    have hstored : fillStored w.store o.event.userId (source (ps.flatMap (Piece.filled entries))) =
        .ok (ps.flatMap (Piece.text value)) := by
      rw [← flatMap_filled_text hvalue]
      exact fillStored_source (plain_filled hclean h.plain)
        fun name v hm => h.stored name v (mem_of_mem_filled hm)
    have hlook : (Act.look : Act World World) w = (.done w, w) := rfl
    rw [Act.run_bind_done hlook, Act.run_bind_done (Act.run_of_ok hknown w),
      Act.run_bind_done hdice, Act.run_bind_done (Act.run_of_ok (captures_groups h.captured) _),
      Act.run_bind_done (Act.run_of_ok hnamed _)]
    rw [← hfilled, hentries] at hstored
    exact Act.run_bind_done (Act.run_of_ok hstored _)
  · -- a template without names is passed over as a whole
    obtain ⟨s, rfl⟩ := eq_chars_of_notMem hbrace
    rw [if_pos (by simpa using hbrace)]
    have hdice : namedDice (s.map .char) = [] := by
      simp [namedDice]
    simp only [thrown, hdice, text_chars, source_chars, throws]
    rfl

namespace Greeting

/-- Ann says hello in a group. -/
def occasion : Occasion :=
  ⟨⟨"10001", some "777", "group", some "42", "hello Ann", none, []⟩, "hello Ann"⟩

/-- The captures of the trigger; the second group took no part. -/
def groups : List (Option String) := [some "Ann", none]

/-- A world with a capture, a variable and a stored value, whose text has braces. -/
def world : World where
  context := [("regex_groups", .list [.text "Ann", .null]), ("count", .text "three")]
  store := ⟨[("10001", [("motto", .text "\x7bcount\x7d")])], []⟩
  dice := ⟨[Double.ofDecimal false 5 (-1), Double.ofInt 0], 0⟩
  patterns := ⟨200, fun _ => none, []⟩
  network := ⟨[], 0, .plain⟩
  now := ⟨2024, 3, 15, 14, 30, 0, 0⟩

/-- A name of each kind, and one that stands for nothing. -/
def template : List Piece :=
  "Hi ".toList.map .char ++
    ["$1", "$2", "$10", "user_id", "date", "count", "random6", "random6", "storage.motto",
      "storage.", "regex_groups", "nobody"].map fun name => .hole name.toList

theorem legible : Legible occasion world groups template where
  plain := by decide
  occasion := ⟨by decide, by decide, by decide, by decide⟩
  clock := by decide
  placed := by decide
  captured := rfl
  groups := by decide
  context := by
    refine List.forall_mem_cons.mpr ⟨⟨by decide, fun h => absurd h (by decide)⟩, ?_⟩
    refine List.forall_mem_cons.mpr ⟨⟨by decide, fun _ => ⟨"three", rfl, by decide⟩⟩, ?_⟩
    exact fun e he => absurd he List.not_mem_nil
  stored := by
    intro name v hname hv
    obtain ⟨key, -, -, rfl⟩ := stored?_eq_some_iff.mp hv
    have hrecord : world.store.record occasion.event.userId =
        [("motto", .text "\x7bcount\x7d")] := rfl
    rw [Store.userValue, hrecord, Table.get?]
    split <;> exact ⟨_, rfl⟩

end Greeting

/-- Among the names that are filled in are the sender and the day. -/
theorem render_source_greeting :
    Legible Greeting.occasion Greeting.world Greeting.groups Greeting.template ∧
      ∃ known, builtins Greeting.occasion Greeting.world.zone Greeting.world.now = .ok known ∧
        let thrown := throws (namedDice Greeting.template) Greeting.world.dice
        let value := meaning known thrown.1 Greeting.groups Greeting.world "10001"
        value "user_id".toList = "10001".toList ∧ value "date".toList = "2024-03-15".toList ∧
        render Greeting.occasion (String.ofList (source Greeting.template)) Greeting.world =
          (.done (String.ofList (Greeting.template.flatMap (Piece.text value))),
            { Greeting.world with dice := thrown.2 }) := by
  obtain ⟨known, hknown, hrender⟩ := render_source Greeting.legible
  obtain ⟨huser, hdate⟩ : known.lookup (braced "user_id".toList) = some "10001".toList ∧
      known.lookup (braced "date".toList) = some "2024-03-15".toList := by
    obtain ⟨x, -, hentries⟩ := exists_of_bind_ok hknown
    obtain ⟨n, -, hentries⟩ := exists_of_bind_ok hentries
    obtain rfl := Except.ok.inj hentries
    exact ⟨rfl, rfl⟩
  refine ⟨Greeting.legible, known, hknown, ?_, ?_, hrender⟩
  · rw [meaning, huser]
    rfl
  · rw [meaning, hdate]
    rfl

end ChatFlow.Template
