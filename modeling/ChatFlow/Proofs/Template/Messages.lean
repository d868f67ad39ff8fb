import ChatFlow.Proofs.Results
import ChatFlow.Proofs.Template.Passes

/-!
# The text of a message in a template

A template that names the text of the message is filled in with it. The passes that come later then
read what was filled in, whoever wrote it.

* `run_render_text` — **the later passes read the text** as if it were the template;
* `Inert` — a text in which none of them finds a name that it knows;
* `render_text` — **such a text comes out as it was written**, with all its braces;
* `render_text_date` — a date that was asked for in the message is told.
-/

namespace ChatFlow.Template

/-! ## Names -/

/-- The names of the text of the message. -/
def textNames : List String := ["content", "message"]

/-- The names whose turn comes after that of a name. -/
def laterNames (name : String) : List String := (knownNames.dropWhile (· ≠ name)).drop 1

/-- What is known has the text of the message at its place among the names. -/
theorem exists_text_entry {o : Occasion} {zone : Zone} {now : Moment} {known : List Entry}
    {name : String} (hknown : builtins o zone now = .ok known) (hname : name ∈ textNames) :
    ∃ before after, known = before ++ entry name o.text :: after ∧
      (∀ e ∈ before, occursIn e.1 (braced name.toList) = false) ∧
      after.map Prod.fst = (laterNames name).map fun n => braced n.toList := by
  obtain ⟨x, -, hknown⟩ := exists_of_bind_ok hknown
  obtain ⟨n, -, hknown⟩ := exists_of_bind_ok hknown
  obtain rfl := Except.ok.inj hknown
  simp only [textNames, List.mem_cons, List.not_mem_nil, or_false] at hname
  rcases hname with rfl | rfl
  · refine ⟨[_, _, _], _, rfl, ?_, rfl⟩
    simp only [List.forall_mem_cons, List.not_mem_nil, false_implies, implies_true, and_true]
    exact ⟨rfl, rfl, rfl⟩
  · refine ⟨[_, _, _, _], _, rfl, ?_, rfl⟩
    simp only [List.forall_mem_cons, List.not_mem_nil, false_implies, implies_true, and_true]
    exact ⟨rfl, rfl, rfl, rfl⟩

/-! ## The text of the message -/

/-- A template that is the name of the text asks for no dice. -/
theorem thrown_text {name : String} (hname : name ∈ textNames) (d : Dice) :
    thrown (braced name.toList) d = ([], d) := by
  have habsent : ∀ name ∈ textNames, ∀ die ∈ diceNames,
      occursIn (braced die.1.toList) (braced name.toList) = false := by decide
  exact thrown_of_absent (habsent name hname) d

/-- **The later passes read the text of the message** as if it were the template. -/
theorem run_render_text {o : Occasion} {w : World} {name : String} (hname : name ∈ textNames)
    {known captured named : List Entry} (hknown : builtins o w.zone w.now = .ok known)
    (hcaptured : captures w.context = .ok captured) (hnamed : contextEntries w.context = .ok named) :
    ∃ after : List Entry,
      after.map Prod.fst = (laterNames name).map (fun n => braced n.toList) ∧
      render o (String.ofList (braced name.toList)) w =
        Act.of ((fillStored w.store o.event.userId
          (fill (after ++ captured ++ named) o.text.toList)).map String.ofList) w := by
  obtain ⟨before, after, rfl, hbefore, hafter⟩ := exists_text_entry hknown hname
  have hbrace : (String.ofList (braced name.toList)).toList.contains '\x7b' = true := by
    rw [String.toList_ofList]
    rfl
  -- the name itself is all that its own pass finds
  have hself : replaceAll (braced name.toList) o.text.toList (braced name.toList) =
      o.text.toList := by
    have happend : replaceAll (braced name.toList) o.text.toList (braced name.toList ++ []) =
        o.text.toList ++ replaceAll (braced name.toList) o.text.toList [] :=
      replaceAll_self_append (braced_ne_nil name.toList)
    have hnil : replaceAll (braced name.toList) o.text.toList [] = [] := rfl
    rwa [hnil, List.append_nil, List.append_nil] at happend
  have hfill : fill (before ++ entry name o.text :: after ++ faceEntries [] ++ captured ++ named)
      (braced name.toList) = fill (after ++ captured ++ named) o.text.toList := by
    calc fill (before ++ entry name o.text :: after ++ faceEntries [] ++ captured ++ named)
          (braced name.toList)
        = fill (entry name o.text :: (after ++ captured ++ named))
            (fill before (braced name.toList)) := by
          rw [← fill_append]
          simp [faceEntries]
      _ = fill (after ++ captured ++ named)
            (replaceAll (braced name.toList) o.text.toList (braced name.toList)) := by
          rw [fill_of_absent hbefore]
          rfl
      _ = fill (after ++ captured ++ named) o.text.toList := by rw [hself]
  refine ⟨after, hafter, ?_⟩
  rw [run_render hbrace hknown, String.toList_ofList, thrown_text hname]
  simp only [passes, hcaptured, hnamed, bind, Except.bind, hfill]

/-- **A text that the passes after a name leave alone**: none of them finds a name that it knows. -/
structure Inert (w : World) (captured : List Entry) (name : String) (text : List Char) : Prop where
  /-- of what is known, names that have their turn later -/
  known : ∀ n ∈ laterNames name, occursIn (braced n.toList) text = false
  /-- captures there are -/
  captures : ∀ e ∈ captured, occursIn e.1 text = false
  /-- variables there are -/
  named : ∀ e ∈ w.context, reservedNames.contains e.1 = false →
    occursIn (braced e.1.toList) text = false
  /-- stored values, whether they are there or not -/
  stored : ∀ key, .hole key ∉ pieces storageOpening text

/-- **The text of the message comes out as it was written**, braces and all, as long as none of the
passes after its own finds a name in it that it knows. Dice are not among these: a die that is named
in the message is not thrown. -/
theorem render_text {o : Occasion} {w : World} {name : String} (hname : name ∈ textNames)
    (hclock : w.now.isValid = true) (hplaced : w.seconds?.isSome) {captured : List Entry}
    (hcaptured : captures w.context = .ok captured)
    (hcontext : ∀ e ∈ w.context, reservedNames.contains e.1 = false → ∃ s, e.2.toText = .ok s)
    (htext : Inert w captured name o.text.toList) :
    render o (String.ofList (braced name.toList)) w = (.done o.text, w) := by
  obtain ⟨known, hknown⟩ := exists_builtins o hclock hplaced
  obtain ⟨named, hnamed⟩ := exists_contextEntries hcontext
  obtain ⟨after, hafter, hrender⟩ := run_render_text hname hknown hcaptured hnamed
  have habsent : ∀ e ∈ after ++ captured ++ named, occursIn e.1 o.text.toList = false := by
    simp only [List.mem_append]
    rintro e ((he | he) | he)
    · have hmem : e.1 ∈ (laterNames name).map fun n => braced n.toList :=
        hafter ▸ List.mem_map_of_mem he
      obtain ⟨n, hn, hen⟩ := List.mem_map.mp hmem
      exact hen ▸ htext.known n hn
    · exact htext.captures e he
    · obtain ⟨x, hx, hreserved, s, -, rfl⟩ := exists_of_mem_contextEntries hnamed he
      exact htext.named x hx hreserved
  rw [hrender, fill_of_absent habsent, fillStored_of_absent htext.stored]
  exact Act.run_of_ok (by rw [Except.map, String.ofList_toList]) w

namespace Greeting

/-- Ann's message has braces of her own: a name nobody knows, her account, dice, a capture there is
not, and half a name. -/
def riddle : Occasion :=
  { occasion with text := "\x7bnobody\x7d \x7buser_id\x7d \x7brandom6\x7d \x7b$3\x7d \x7bcount" }

theorem inert_riddle : Inert world [(braced ['$', '1'], ['A', 'n', 'n']), (braced ['$', '2'], [])]
    "content" riddle.text.toList where
  known := by decide
  captures := by decide
  named := by
    refine List.forall_mem_cons.mpr ⟨fun h => absurd h (by decide), ?_⟩
    exact List.forall_mem_cons.mpr ⟨fun _ => by decide, fun e he => absurd he List.not_mem_nil⟩
  stored key := by
    have hplain : pieces storageOpening riddle.text.toList = riddle.text.toList.map .char := by
      decide
    simp [hplain]

end Greeting

theorem render_text_riddle :
    "content" ∈ textNames ∧ Greeting.world.now.isValid = true ∧ Greeting.world.seconds?.isSome ∧
      captures Greeting.world.context =
        .ok [(braced ['$', '1'], ['A', 'n', 'n']), (braced ['$', '2'], [])] ∧
      (∀ e ∈ Greeting.world.context, reservedNames.contains e.1 = false →
        ∃ s, e.2.toText = .ok s) ∧
      Inert Greeting.world [(braced ['$', '1'], ['A', 'n', 'n']), (braced ['$', '2'], [])] "content"
        Greeting.riddle.text.toList ∧
      render Greeting.riddle "\x7bcontent\x7d" Greeting.world =
        (.done Greeting.riddle.text, Greeting.world) := by
  have hcontext : ∀ e ∈ Greeting.world.context, reservedNames.contains e.1 = false →
      ∃ s, e.2.toText = .ok s := by
    intro e he hreserved
    obtain ⟨s, hs, -⟩ := (Greeting.legible.context e he).2 hreserved
    exact ⟨s, hs⟩
  have htemplate : String.ofList (braced "content".toList) = "\x7bcontent\x7d" := by decide
  have hrender := render_text (o := Greeting.riddle) (by decide) (by decide) (by decide) rfl hcontext
    Greeting.inert_riddle
  rw [htemplate] at hrender
  exact ⟨by decide, by decide, by decide, rfl, hcontext, Greeting.inert_riddle, hrender⟩

/-- **A message is not safe from the passes after its own**: who writes the name of the date is told
the date, and who writes the name of a variable is told the variable. -/
theorem render_text_date :
    (render { Greeting.occasion with text := "\x7bdate\x7d \x7bcount\x7d" } "\x7bcontent\x7d"
        Greeting.world).1 = .done "2024-03-15 three" ∧
      "2024-03-15 three" ≠ "\x7bdate\x7d \x7bcount\x7d" :=
  ⟨by decide +kernel, by decide⟩

end ChatFlow.Template
