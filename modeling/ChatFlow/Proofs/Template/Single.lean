import ChatFlow.Proofs.Number.Exact
import ChatFlow.Proofs.Results
import ChatFlow.Proofs.Template.Passes

/-!
# Templates of one name

What a template comes to that is a name between braces and nothing else.

* `Fillable` — a world in which names can be filled in;
* `Fillable.render_stored` — **the name of a stored value comes to its text**;
* `Own` — a name within whose braces nothing else is named, `Own.of_braceless` — such as any other name
  without braces, and `Fillable.render_variable` — **the name of a variable comes to its text**;
* `render_timestamp` — the name of the timestamp comes to the seconds of the clock.
-/

namespace ChatFlow.Template

/-- **A template that is a name.** -/
def placeholder (name : String) : String := String.ofList (braced name.toList)

theorem toList_placeholder (name : String) : (placeholder name).toList = braced name.toList :=
  String.toList_ofList

theorem contains_placeholder (name : String) :
    (placeholder name).toList.contains '\x7b' = true := by
  rw [toList_placeholder]
  rfl

section

variable {o : Occasion} {w : World} {name : String} {known captured named : List Entry}

/-! ## One name -/

theorem exists_of_mem_builtins (hknown : builtins o w.zone w.now = .ok known) {e : Entry}
    (he : e ∈ known) : ∃ n ∈ knownNames, e.1 = braced n.toList := by
  have hmem : e.1 ∈ knownNames.map fun n => braced n.toList :=
    keys_of_builtins hknown ▸ List.mem_map_of_mem he
  obtain ⟨n, hn, hen⟩ := List.mem_map.mp hmem
  exact ⟨n, hn, hen.symm⟩

/-- The names of all that is filled in stand between braces. -/
theorem exists_braced (hknown : builtins o w.zone w.now = .ok known)
    (hcaptured : captures w.context = .ok captured) (hnamed : contextEntries w.context = .ok named)
    {e : Entry} (he : e ∈ known ∨ e ∈ captured ∨ e ∈ named) : ∃ k, e.1 = braced k := by
  rcases he with he | he | he
  · obtain ⟨n, -, hn⟩ := exists_of_mem_builtins hknown he
    exact ⟨_, hn⟩
  · obtain ⟨digits, hdigits⟩ := exists_of_mem_captures hcaptured he
    exact ⟨_, hdigits⟩
  · obtain ⟨x, -, -, s, -, rfl⟩ := exists_of_mem_contextEntries hnamed he
    exact ⟨_, rfl⟩

/-- **A name is filled in pass by pass**, unless a die is named within its braces. -/
theorem render_placeholder (hknown : builtins o w.zone w.now = .ok known)
    (hcaptured : captures w.context = .ok captured) (hnamed : contextEntries w.context = .ok named)
    (hdice : ∀ die ∈ diceNames, occursIn (braced die.1.toList) (braced name.toList) = false) :
    render o (placeholder name) w =
      Act.of ((fillStored w.store o.event.userId
        (fill (known ++ (captured ++ named)) (braced name.toList))).map String.ofList) w := by
  rw [run_render (contains_placeholder name) hknown, toList_placeholder, thrown_of_absent hdice]
  simp only [passes, hcaptured, hnamed, bind, Except.bind, faceEntries, List.map_nil,
    List.append_nil, List.append_assoc]

/-- **A name comes to the text of its entry**, where no entry before finds its own name within the
braces and the text has no braces. -/
theorem render_of_entry {earlier later : List Entry} {value : String}
    (hknown : builtins o w.zone w.now = .ok known) (hcaptured : captures w.context = .ok captured)
    (hnamed : contextEntries w.context = .ok named)
    (hdice : ∀ die ∈ diceNames, occursIn (braced die.1.toList) (braced name.toList) = false)
    (hsplit : known ++ (captured ++ named) = earlier ++ entry name value :: later)
    (hearlier : ∀ e ∈ earlier, occursIn e.1 (braced name.toList) = false)
    (hvalue : Braceless value.toList) :
    render o (placeholder name) w = (.done value, w) := by
  have hbraced : ∀ e ∈ earlier ++ entry name value :: later, ∃ k, e.1 = braced k := by
    intro e he
    rw [← hsplit, List.mem_append, List.mem_append] at he
    exact exists_braced hknown hcaptured hnamed he
  have hfill : fill (earlier ++ entry name value :: later) (braced name.toList) = value.toList := by
    have hbetween : fill (earlier ++ entry name value :: later) ([] ++ (braced name.toList ++ [])) =
        [] ++ (value.toList ++ []) := by
      refine fill_between (by decide) (by decide) (fun e he => ?_) fun e he => ?_
      · obtain ⟨k, hk⟩ := hbraced e (List.mem_append_left _ he)
        exact ⟨k, hk, hk ▸ hearlier e he⟩
      · obtain ⟨k, hk⟩ := hbraced e (List.mem_append_right _ (List.mem_cons_of_mem _ he))
        exact ⟨k, hk, occursIn_of_notMem hvalue.1⟩
    simpa only [List.nil_append, List.append_nil] using hbetween
  have hpieces : pieces storageOpening value.toList = value.toList.map .char := by
    have happend : pieces storageOpening (value.toList ++ []) = value.toList.map .char ++ [] :=
      pieces_append rfl hvalue.1 []
    rwa [List.append_nil, List.append_nil] at happend
  rw [render_placeholder hknown hcaptured hnamed hdice, hsplit, hfill,
    fillStored_of_absent (by simp [hpieces])]
  exact Act.run_of_ok (by rw [Except.map, String.ofList_toList]) w

end

/-! ## Where names can be filled in -/

/-- **A world in which names can be filled in.** Of stored values nothing is asked: only those that are
named need a text. -/
structure Fillable (w : World) : Prop where
  /-- the clock shows a time of the calendar -/
  clock : w.now.isValid = true
  /-- and one that has a timestamp -/
  placed : w.seconds?.isSome
  /-- the captures can be filled in -/
  captures : ∃ captured, captures w.context = .ok captured
  /-- variables have texts, but for those that are never filled in -/
  context : ∀ e ∈ w.context, reservedNames.contains e.1 = false → ∃ s, e.2.toText = .ok s

/-- **A name of its own**: none of the other names that are filled in is found within its braces. -/
structure Own (w : World) (name : String) : Prop where
  /-- it is not one that is never filled in -/
  reserved : reservedNames.contains name = false
  /-- what is known of the message and the clock has other names -/
  known : ∀ n ∈ knownNames, occursIn (braced n.toList) (braced name.toList) = false
  /-- and so have the dice -/
  dice : ∀ die ∈ diceNames, occursIn (braced die.1.toList) (braced name.toList) = false
  /-- and the captures -/
  captures : ∀ captured, captures w.context = .ok captured →
    ∀ e ∈ captured, occursIn e.1 (braced name.toList) = false
  /-- and the other variables -/
  others : ∀ e ∈ w.context, e.1 ≠ name → reservedNames.contains e.1 = false →
    occursIn (braced e.1.toList) (braced name.toList) = false

/-- **A name without braces is one of its own** if it is not that of something else. -/
theorem Own.of_braceless {w : World} {name : String} (hclean : Braceless name.toList)
    (hreserved : reservedNames.contains name = false) (hknown : name ∉ knownNames)
    (hdice : name ∉ diceNames.map Prod.fst)
    (hcaptures : ∀ captured, Template.captures w.context = .ok captured →
      ∀ e ∈ captured, e.1 ≠ braced name.toList) : Own w name := by
  have hother (n : String) (hn : n ≠ name) : occursIn (braced n.toList) (braced name.toList) = false :=
    occursIn_braced_of_ne hclean (mt String.toList_inj.mp hn)
  refine ⟨hreserved, fun n hn => hother n fun h => hknown (h ▸ hn),
    fun die hdie => hother _ fun h => hdice (h ▸ List.mem_map_of_mem hdie),
    fun captured hcaptured e he => ?_, fun e _ hne _ => hother _ hne⟩
  obtain ⟨digits, hdigits⟩ := exists_of_mem_captures hcaptured he
  have hne := hcaptures captured hcaptured e he
  rw [hdigits] at hne ⊢
  exact occursIn_braced_of_ne hclean (ne_of_apply_ne braced hne)

/-- The variables that have their turn before one have other names. -/
theorem exists_variable_entry {context : Table Value} {entries : List Entry} {name s : String}
    {v : Value} (h : contextEntries context = .ok entries) (hget : context.get? name = some v)
    (hreserved : reservedNames.contains name = false) (hs : v.toText = .ok s) :
    ∃ before after, entries = before ++ entry name s :: after ∧
      ∀ e ∈ before, ∃ x ∈ context, x.1 ≠ name ∧ reservedNames.contains x.1 = false ∧
        e.1 = braced x.1.toList := by
  induction context generalizing entries with
  | nil => cases hget
  | cons first rest ih =>
    obtain ⟨key, value⟩ := first
    unfold contextEntries at h
    rw [Table.get?] at hget
    by_cases hkey : key = name
    · subst hkey
      rw [if_pos rfl] at hget
      obtain rfl := Option.some.inj hget
      rw [hreserved, if_neg Bool.false_ne_true] at h
      obtain ⟨text, htext, h⟩ := exists_of_bind_ok h
      obtain ⟨others, -, h⟩ := exists_of_bind_ok h
      obtain rfl := Except.ok.inj h
      obtain rfl := Except.ok.inj (hs.symm.trans htext)
      exact ⟨[], others, rfl, List.forall_mem_nil _⟩
    · rw [if_neg hkey] at hget
      split at h
      · obtain ⟨before, after, rfl, hbefore⟩ := ih h hget
        refine ⟨before, after, rfl, fun e he => ?_⟩
        obtain ⟨x, hx, hrest⟩ := hbefore e he
        exact ⟨x, List.mem_cons_of_mem _ hx, hrest⟩
      · next hfree =>
        obtain ⟨text, -, h⟩ := exists_of_bind_ok h
        obtain ⟨others, hothers, h⟩ := exists_of_bind_ok h
        obtain rfl := Except.ok.inj h
        obtain ⟨before, after, rfl, hbefore⟩ := ih hothers hget
        refine ⟨entry key text :: before, after, rfl, List.forall_mem_cons.mpr ⟨?_, fun e he => ?_⟩⟩
        · exact ⟨(key, value), List.mem_cons_self, hkey, by simpa using hfree, rfl⟩
        · obtain ⟨x, hx, hrest⟩ := hbefore e he
          exact ⟨x, List.mem_cons_of_mem _ hx, hrest⟩

/-- What is known, captured or a die does not name a stored value. -/
theorem storagePrefix_known :
    ∀ n ∈ knownNames ++ diceNames.map Prod.fst, ¬ storagePrefix <+: n.toList := by decide

namespace Fillable

variable {w : World} (h : Fillable w)

include h

theorem exists_entries (o : Occasion) : ∃ known captured named,
    builtins o w.zone w.now = .ok known ∧ Template.captures w.context = .ok captured ∧
      contextEntries w.context = .ok named := by
  obtain ⟨known, hknown⟩ := exists_builtins o h.clock h.placed
  obtain ⟨captured, hcaptured⟩ := h.captures
  obtain ⟨named, hnamed⟩ := exists_contextEntries h.context
  exact ⟨known, captured, named, hknown, hcaptured, hnamed⟩

/-- **The name of a stored value comes to its text**, unless a variable has that name. -/
theorem render_stored {o : Occasion} {key s : String} (hkey : key ≠ "")
    (hclean : Braceless key.toList) (hfree : w.context.get? ("storage." ++ key) = none)
    (hs : (w.store.userValue o.event.userId key (.text "")).toText = .ok s) :
    render o (placeholder ("storage." ++ key)) w = (.done s, w) := by
  obtain ⟨known, captured, named, hknown, hcaptured, hnamed⟩ := h.exists_entries o
  have hname : ("storage." ++ key).toList = storagePrefix ++ key.toList := String.toList_append
  have hbraceless : Braceless (storagePrefix ++ key.toList) := Braceless.append (by decide) hclean
  have hother : ∀ k, k ≠ storagePrefix ++ key.toList →
      occursIn (braced k) (braced (storagePrefix ++ key.toList)) = false := fun k hk =>
    occursIn_braced_of_ne hbraceless hk
  have hapart : ∀ n ∈ knownNames ++ diceNames.map Prod.fst,
      n.toList ≠ storagePrefix ++ key.toList := fun n hn heq =>
    storagePrefix_known n hn (heq ▸ List.prefix_append _ _)
  have hdice : ∀ die ∈ diceNames,
      occursIn (braced die.1.toList) (braced ("storage." ++ key).toList) = false := by
    intro die hdie
    rw [hname]
    exact hother _ (hapart die.1 (List.mem_append_right _ (List.mem_map_of_mem hdie)))
  have habsent : ∀ e ∈ known ++ (captured ++ named),
      occursIn e.1 (braced (storagePrefix ++ key.toList)) = false := by
    simp only [List.mem_append]
    rintro e (he | he | he)
    · obtain ⟨n, hn, hen⟩ := exists_of_mem_builtins hknown he
      exact hen ▸ hother _ (hapart n (List.mem_append_left _ hn))
    · obtain ⟨digits, hdigits⟩ := exists_of_mem_captures hcaptured he
      exact hdigits ▸ hother _ nofun
    · obtain ⟨x, hx, -, text, -, rfl⟩ := exists_of_mem_contextEntries hnamed he
      refine hother _ fun heq => Table.get?_eq_none_iff.mp hfree ?_
      rw [← hname] at heq
      exact String.toList_inj.mp heq ▸ List.mem_map_of_mem hx
  have hpieces : pieces storageOpening (braced (storagePrefix ++ key.toList)) =
      [.hole key.toList] := by
    have hstored := pieces_stored (fun hnil => hkey (String.toList_eq_nil_iff.mp hnil)) hclean []
    rwa [List.append_nil] at hstored
  have hfill : fillStored w.store o.event.userId (braced (storagePrefix ++ key.toList)) =
      .ok s.toList := by
    rw [fillStored, hpieces, join, storedText, String.ofList_toList, hs]
    exact congrArg Except.ok (List.append_nil _)
  rw [render_placeholder hknown hcaptured hnamed hdice, hname, fill_of_absent habsent, hfill]
  exact Act.run_of_ok (by rw [Except.map, String.ofList_toList]) w

/-- **The name of a variable comes to its text**, if it is a name of its own and the text has no
braces. -/
theorem render_variable {o : Occasion} {name s : String} {v : Value} (hown : Own w name)
    (hget : w.context.get? name = some v) (hs : v.toText = .ok s) (hclean : Braceless s.toList) :
    render o (placeholder name) w = (.done s, w) := by
  obtain ⟨known, captured, named, hknown, hcaptured, hnamed⟩ := h.exists_entries o
  obtain ⟨before, after, hentries, hbefore⟩ := exists_variable_entry hnamed hget hown.reserved hs
  have hsplit : known ++ (captured ++ named) =
      (known ++ (captured ++ before)) ++ entry name s :: after := by
    simp only [hentries, List.append_assoc]
  refine render_of_entry hknown hcaptured hnamed hown.dice hsplit ?_ hclean
  simp only [List.mem_append]
  rintro e (he | he | he)
  · obtain ⟨n, hn, hen⟩ := exists_of_mem_builtins hknown he
    exact hen ▸ hown.known n hn
  · exact hown.captures captured hcaptured e he
  · obtain ⟨x, hx, hne, hreserved, hkey⟩ := hbefore e he
    exact hkey ▸ hown.others x hx hne hreserved

end Fillable

/-! ## The timestamp -/

section

variable {o : Occasion} {w u : World} {text : String}

/-- What was rendered with a brace in it could be filled in. -/
theorem exists_of_render {template : String} (hbrace : template.toList.contains '\x7b' = true)
    (h : render o template w = (.done text, u)) : ∃ known captured named,
      builtins o w.zone w.now = .ok known ∧ captures w.context = .ok captured ∧
        contextEntries w.context = .ok named := by
  rcases hknown : builtins o w.zone w.now with f | known
  · rw [run_render_error hbrace hknown] at h
    cases h
  rw [run_render hbrace hknown] at h
  rcases hcaptured : captures w.context with f | captured
  · simp only [passes, hcaptured, bind, Except.bind] at h
    cases h
  rcases hnamed : contextEntries w.context with f | named
  · simp only [passes, hcaptured, hnamed, bind, Except.bind] at h
    cases h
  exact ⟨known, captured, named, rfl, rfl, rfl⟩

/-- What is known has the seconds of a whole second at their place among the names. -/
theorem exists_timestamp_entry {zone : Zone} {now : Moment} {known : List Entry}
    (hvalid : now.isValid = true) (hmicro : now.micro = 0)
    (hknown : builtins o zone now = .ok known) : ∃ n before after, zone.seconds? now = some n ∧
      known = before ++ entry "timestamp" (intText n) :: after ∧
        ∀ e ∈ before, occursIn e.1 (braced "timestamp".toList) = false := by
  obtain ⟨x, hx, hknown⟩ := exists_of_bind_ok hknown
  obtain ⟨seconds, hseconds, hknown⟩ := exists_of_bind_ok hknown
  obtain ⟨n, hn⟩ := Moment.exists_of_timestamp hx
  obtain ⟨y, hy, hholds⟩ := Moment.timestamp_holds hvalid hn hmicro
  obtain rfl := Except.ok.inj (hx.symm.trans hy)
  obtain rfl := Except.ok.inj (hseconds.symm.trans (Number.toInteger_of_holds hholds))
  obtain rfl := Except.ok.inj hknown
  refine ⟨seconds, [_, _, _, _, _, _, _, _, _], _, hn, rfl, ?_⟩
  simp only [List.forall_mem_cons, List.not_mem_nil, false_implies, implies_true, and_true]
  exact ⟨rfl, rfl, rfl, rfl, rfl, rfl, rfl, rfl, rfl⟩

/-- **The name of the timestamp comes to the seconds of the clock** where it can be filled in. -/
theorem render_timestamp {known captured named : List Entry} (hvalid : w.now.isValid = true)
    (hmicro : w.now.micro = 0) (hknown : builtins o w.zone w.now = .ok known)
    (hcaptured : captures w.context = .ok captured) (hnamed : contextEntries w.context = .ok named) :
    ∃ n, w.seconds? = some n ∧ render o (placeholder "timestamp") w = (.done (intText n), w) := by
  obtain ⟨n, before, after, hn, hsplit, hbefore⟩ := exists_timestamp_entry hvalid hmicro hknown
  have hentries : known ++ (captured ++ named) = before ++
      entry "timestamp" (intText n) :: (after ++ (captured ++ named)) := by
    rw [hsplit, List.append_assoc, List.cons_append]
  exact ⟨n, hn,
    render_of_entry hknown hcaptured hnamed (by decide) hentries hbefore (braceless_intText _)⟩

/-- It comes to nothing else. -/
theorem exists_of_render_timestamp (hvalid : w.now.isValid = true) (hmicro : w.now.micro = 0)
    (h : render o (placeholder "timestamp") w = (.done text, u)) :
    ∃ n, w.seconds? = some n ∧ text = intText n := by
  obtain ⟨known, captured, named, hknown, hcaptured, hnamed⟩ :=
    exists_of_render (contains_placeholder _) h
  obtain ⟨n, hn, hrender⟩ := render_timestamp hvalid hmicro hknown hcaptured hnamed
  exact ⟨n, hn, Outcome.done.inj (Prod.mk.inj (h.symm.trans hrender)).1⟩

end

end ChatFlow.Template
