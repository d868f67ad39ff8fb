import ChatFlow.Proofs.Template.Passes

/-!
# Templates that do not mention a variable

A variable that a template does not mention makes no difference to it, whatever its value, braces
included. What is filled in for the other names must be without braces: a text with braces could
mention the variable by itself.

* `Act.Blind` — an act on a state and on a view of it, in lockstep;
* `Avoids` — a template that mentions a name neither as it is written nor with other names filled in,
  `avoids_source` — **among the ordinary templates these are the ones that do not have the name**;
* `Clear` — variables that have no braces, but for one of them;
* `render_forget` — **rendering such a template does not see the variable**.
-/

namespace ChatFlow

/-! ## Acts and views -/

/-- **An act does not see what a view leaves out**: run on the view, it ends the same way, with the view
of where it ended. -/
def Act.Blind {σ α : Type} (view : σ → σ) (act : Act σ α) (s : σ) : Prop :=
  act (view s) = ((act s).1, view (act s).2)

namespace Act.Blind

variable {σ α β : Type} {view : σ → σ} {s : σ}

theorem fst {act : Act σ α} (h : act.Blind view s) : (act (view s)).1 = (act s).1 := by
  unfold Blind at h
  rw [h]

theorem pure (a : α) : (Pure.pure a : Act σ α).Blind view s := rfl

theorem fail (f : Fault) : (Act.fail f : Act σ α).Blind view s := rfl

theorem of (r : Except Fault α) : (Act.of r).Blind view s := by
  cases r <;> rfl

theorem bind {act : Act σ α} {next : α → Act σ β} (h : act.Blind view s)
    (hnext : ∀ a t, act s = (.done a, t) → (next a).Blind view t) : (act >>= next).Blind view s := by
  unfold Blind at h
  rcases hs : act s with ⟨a | f | _, t⟩ <;> rw [hs] at h
  · rw [Blind, run_bind_done h, run_bind_done hs]
    exact hnext a t hs
  · rw [Blind, run_bind_failed h, run_bind_failed hs]
  · rw [Blind, run_bind_hung h, run_bind_hung hs]

theorem attempt {act : Act σ α} (h : act.Blind view s) : act.attempt.Blind view s := by
  unfold Blind at h ⊢
  unfold Act.attempt
  rw [h]
  rcases act s with ⟨a | f | _, t⟩ <;> rfl

/-- A state may be looked at as long as nothing is made of what the view leaves out. -/
theorem look {next : σ → Act σ α} (hsame : next (view s) = next s) (h : (next s).Blind view s) :
    (Act.look >>= next).Blind view s := by
  have hlook : ∀ t : σ, (Act.look >>= next) t = next t t := fun t => Act.run_bind_done rfl
  rw [Blind, hlook, hlook, hsame]
  exact h

/-- Two states with the same view are treated alike. -/
theorem same {act : Act σ α} {t : σ} (hs : act.Blind view s) (ht : act.Blind view t)
    (h : view s = view t) : (act s).1 = (act t).1 ∧ view (act s).2 = view (act t).2 := by
  unfold Blind at hs ht
  rw [h, ht] at hs
  exact ⟨(Prod.mk.inj hs).1.symm, (Prod.mk.inj hs).2.symm⟩

end Act.Blind

/-- **A world with a variable forgotten.** -/
def World.forget (name : String) (w : World) : World := { w with context := w.context.without name }

namespace Template

/-! ## Templates without a name -/

/-- **A template that does not mention a name**, neither as it is written nor with other names filled
in by texts without braces. -/
def Avoids (name : String) (s : List Char) : Prop :=
  ∀ entries : List Entry, (∀ e ∈ entries, (∃ k, e.1 = braced k) ∧ Braceless e.2) →
    occursIn (braced name.toList) (fill entries s) = false

section

variable {name : String} {s : List Char}

theorem Avoids.fill (h : Avoids name s) {entries : List Entry}
    (he : ∀ e ∈ entries, (∃ k, e.1 = braced k) ∧ Braceless e.2) :
    Avoids name (fill entries s) := by
  intro others hothers
  rw [← fill_append]
  exact h _ (List.forall_mem_append.mpr ⟨he, hothers⟩)

/-- The entries of a name make no difference to a template that does not mention it. -/
theorem Avoids.fill_filter (h : Avoids name s) {entries : List Entry}
    (he : ∀ e ∈ entries, e.1 ≠ braced name.toList → (∃ k, e.1 = braced k) ∧ Braceless e.2) :
    Template.fill (entries.filter fun e => e.1 ≠ braced name.toList) s = Template.fill entries s := by
  induction entries generalizing s with
  | nil => rfl
  | cons e rest ih =>
    have hrest := fun e' he' => he e' (List.mem_cons_of_mem _ he')
    by_cases hname : e.1 = braced name.toList
    · have habsent : replaceAll e.1 e.2 s = s := replaceAll_of_absent (hname ▸ h [] nofun)
      calc Template.fill ((e :: rest).filter fun e => e.1 ≠ braced name.toList) s
          = Template.fill (rest.filter fun e => e.1 ≠ braced name.toList) s := by
            rw [List.filter_cons_of_neg (by simpa using hname)]
        _ = Template.fill rest (replaceAll e.1 e.2 s) := by rw [ih h hrest, habsent]
        _ = Template.fill (e :: rest) s := rfl
    · have hclean := he e List.mem_cons_self hname
      have hnext : Avoids name (Template.fill [e] s) :=
        h.fill (List.forall_mem_singleton.mpr hclean)
      calc Template.fill ((e :: rest).filter fun e => e.1 ≠ braced name.toList) s
          = Template.fill (rest.filter fun e => e.1 ≠ braced name.toList) (replaceAll e.1 e.2 s) := by
            rw [List.filter_cons_of_pos (by simpa using hname)]
            rfl
        _ = Template.fill (e :: rest) s := ih hnext hrest

end

/-! ## Ordinary templates -/

/-- What follows a closing brace in an ordinary template is an ordinary template with fewer pieces. -/
theorem exists_suffix_source {ps : List Piece} (hps : ∀ p ∈ ps, p.Plain) {a t : List Char}
    (h : source ps = a ++ '\x7d' :: t) :
    ∃ qs, t = source qs ∧ qs <:+ ps ∧ qs.length < ps.length := by
  induction ps generalizing a with
  | nil => simp [source] at h
  | cons p ps ih =>
    have hp := hps p List.mem_cons_self
    have hrest := fun a h => ih (fun q hq => hps q (List.mem_cons_of_mem _ hq)) (a := a) h
    have hlater : ∀ a, source ps = a ++ '\x7d' :: t →
        ∃ qs, t = source qs ∧ qs <:+ p :: ps ∧ qs.length < (p :: ps).length := by
      intro a ha
      obtain ⟨qs, ht, hqs, hlength⟩ := hrest a ha
      exact ⟨qs, ht, hqs.trans (List.suffix_cons p ps), hlength.trans (Nat.lt_succ_self _)⟩
    cases p with
    | char c =>
      cases a with
      | nil => exact absurd (List.cons.inj h).1 fun hc => hp.2 (by simp [hc])
      | cons c' a => exact hlater a (List.cons.inj h).2
    | hole name =>
      have hname : source (.hole name :: ps) = ('\x7b' :: name) ++ '\x7d' :: source ps := by
        rw [source_cons, Piece.source, braced_append, List.cons_append]
      rw [hname] at h
      rcases List.append_eq_append_iff.mp h with ⟨more, -, hmore⟩ | ⟨more, hin, hmore⟩
      · cases more with
        | nil => exact ⟨ps, (List.cons.inj hmore).2.symm, List.suffix_cons _ _, Nat.lt_succ_self _⟩
        | cons c more => exact hlater more (List.cons.inj hmore).2
      · cases more with
        | nil => exact ⟨ps, (List.cons.inj hmore).2, List.suffix_cons _ _, Nat.lt_succ_self _⟩
        | cons c more =>
          -- the closing brace would be one of the name
          obtain ⟨rfl, -⟩ := List.cons.inj hmore
          have hmem : '\x7d' ∈ '\x7b' :: name := hin ▸ List.mem_append_right a List.mem_cons_self
          exact absurd hmem (by simpa using hp.2.2)

/-- **Text without braces in the place of a name**, whatever the name, leaves an ordinary template, with
no names but those that were there. -/
theorem exists_source_replaceAll {k value : List Char} (hvalue : Braceless value) {ps : List Piece}
    (hps : ∀ p ∈ ps, p.Plain) : ∃ qs, replaceAll (braced k) value (source ps) = source qs ∧
      (∀ q ∈ qs, q.Plain) ∧ ∀ name, .hole name ∈ qs → .hole name ∈ ps := by
  induction hn : ps.length using Nat.strong_induction_on generalizing ps with
  | _ n ih =>
    cases ps with
    | nil => exact ⟨[], rfl, nofun, fun _ h => h⟩
    | cons p ps =>
      have hp := hps p List.mem_cons_self
      obtain ⟨qs, hqs, hplain, hnames⟩ := ih ps.length (by rw [← hn]; exact Nat.lt_succ_self _)
        (fun q hq => hps q (List.mem_cons_of_mem _ hq)) rfl
      have hpass : replaceAll (braced k) value (source (p :: ps)) =
          p.source ++ replaceAll (braced k) value (source ps) →
          ∃ qs, replaceAll (braced k) value (source (p :: ps)) = source qs ∧
            (∀ q ∈ qs, q.Plain) ∧ ∀ name, .hole name ∈ qs → .hole name ∈ p :: ps := by
        intro hreplace
        refine ⟨p :: qs, by rw [hreplace, hqs, source_cons], List.forall_mem_cons.mpr ⟨hp, hplain⟩,
          fun name hname => ?_⟩
        rcases List.mem_cons.mp hname with rfl | hname
        · exact List.mem_cons_self
        · exact List.mem_cons_of_mem _ (hnames name hname)
      cases p with
      | char c => exact hpass (replaceAll_append hp.1)
      | hole name =>
        cases hstart : startsWith (braced k) (source (.hole name :: ps)) with
        | true =>
          obtain ⟨t, ht⟩ := startsWith_iff.mp hstart
          have hclosed : source (.hole name :: ps) = ('\x7b' :: k) ++ '\x7d' :: t := by
            rw [ht, braced_append, List.cons_append]
          obtain ⟨rest, rfl, hsuffix, hlength⟩ := exists_suffix_source hps hclosed
          obtain ⟨qs, hqs, hplain, hnames⟩ := ih rest.length (hn ▸ hlength)
            (fun q hq => hps q (hsuffix.subset hq)) rfl
          refine ⟨value.map .char ++ qs, ?_, List.forall_mem_append.mpr ⟨hvalue.chars, hplain⟩,
            fun name hname => hsuffix.subset (hnames name ?_)⟩
          · rw [ht, replaceAll_self_append (braced_ne_nil k), hqs, source_append, source_chars]
          · simpa using hname
        | false =>
          have hsplit : source (.hole name :: ps) =
              '\x7b' :: ((name ++ ['\x7d']) ++ source ps) := by
            simp [source_cons, Piece.source, braced]
          refine hpass ?_
          rw [hsplit] at hstart ⊢
          rw [replaceAll_cons hstart, braced, List.cons_append, replaceAll_append hp.2.notMem_closed]
          simp [Piece.source, braced]

/-- **An ordinary template that does not have a name does not mention it**, whatever the names of the
other variables. -/
theorem avoids_source {name : String} (hname : Braceless name.toList) {ps : List Piece}
    (hps : ∀ p ∈ ps, p.Plain) (h : .hole name.toList ∉ ps) : Avoids name (source ps) := by
  intro entries he
  suffices hfill : ∃ qs, fill entries (source ps) = source qs ∧ (∀ q ∈ qs, q.Plain) ∧
      ∀ k, .hole k ∈ qs → .hole k ∈ ps by
    obtain ⟨qs, hqs, hplain, hnames⟩ := hfill
    rw [hqs, Bool.eq_false_iff, ne_eq, occursIn_source hname hplain]
    exact fun hmem => h (hnames _ hmem)
  clear h
  induction entries generalizing ps with
  | nil => exact ⟨ps, rfl, hps, fun _ hk => hk⟩
  | cons e rest ih =>
    obtain ⟨⟨k, hk⟩, hvalue⟩ := he e List.mem_cons_self
    obtain ⟨qs, hqs, hplain, hnames⟩ := exists_source_replaceAll (k := k) hvalue hps
    obtain ⟨rs, hrs, hplain, hmore⟩ := ih hplain fun e' he' => he e' (List.mem_cons_of_mem _ he')
    refine ⟨rs, ?_, hplain, fun name hname => hnames name (hmore name hname)⟩
    rw [← hrs, ← hqs, ← hk]
    rfl

/-- The same, of the pieces that a template has. -/
theorem avoids_of_pieces {name : String} (hname : Braceless name.toList) {s : List Char}
    (hplain : ∀ p ∈ pieces ['\x7b'] s, p.Plain) (h : .hole name.toList ∉ pieces ['\x7b'] s) :
    Avoids name s := by
  have hsource : source (pieces ['\x7b'] s) = s := by
    conv_rhs => rw [← text_pieces ['\x7b'] s]
    rfl
  rw [← hsource]
  exact avoids_source hname hplain h

/-! ## Rendering -/

/-- **Variables that have no braces, but for one of them**, which has a text all the same, and of which
it can be said whether paths are looked up in it. -/
structure Clear (name : String) (w : World) : Prop where
  /-- captures -/
  captures : ∀ captured, captures w.context = .ok captured → ∀ e ∈ captured, Braceless e.2
  /-- the other variables -/
  context : ∀ e ∈ w.context, reservedNames.contains e.1 = false → e.1 ≠ name →
    ∀ s, e.2.toText = .ok s → Braceless s.toList
  /-- the one -/
  named : ∀ e ∈ w.context, e.1 = name → (∃ s, e.2.toText = .ok s) ∧ ∃ b, hasPaths e.2 = .ok b

section

variable {name : String}

/-- The variables of a world that has forgotten one are the variables without this one. -/
theorem contextEntries_without (hname : reservedNames.contains name = false) {context : Table Value}
    (htext : ∀ e ∈ context, e.1 = name → ∃ s, e.2.toText = .ok s) :
    contextEntries (context.without name) =
      (contextEntries context).map (List.filter fun e => e.1 ≠ braced name.toList) := by
  induction context with
  | nil => rfl
  | cons e rest ih =>
    obtain ⟨key, v⟩ := e
    have hrest := ih fun e he => htext e (List.mem_cons_of_mem _ he)
    by_cases hkey : key = name
    · subst hkey
      obtain ⟨s, hs⟩ := htext (key, v) List.mem_cons_self rfl
      rw [Table.without_cons_self, hrest, contextEntries, if_neg (by rw [hname]; exact Bool.false_ne_true), hs]
      cases contextEntries rest with
      | error f => rfl
      | ok entries =>
        have hdrop : (entry key s :: entries).filter (fun e => e.1 ≠ braced key.toList) =
            entries.filter fun e => e.1 ≠ braced key.toList :=
          List.filter_cons_of_neg (by simp [entry])
        exact congrArg Except.ok hdrop.symm
    · have hbraced : braced key.toList ≠ braced name.toList :=
        fun h => hkey (String.toList_injective (braced_injective h))
      rw [Table.without_cons_of_ne hkey, contextEntries, contextEntries, hrest]
      split
      · rfl
      cases v.toText with
      | error f => rfl
      | ok s =>
        cases contextEntries rest with
        | error f => rfl
        | ok entries =>
          have hkeep : (entry key s :: entries).filter (fun e => e.1 ≠ braced name.toList) =
              entry key s :: entries.filter fun e => e.1 ≠ braced name.toList :=
            List.filter_cons_of_pos (decide_eq_true hbraced)
          exact congrArg Except.ok hkeep.symm

/-- What is filled in before the variables are texts without braces. -/
theorem clean_earlier {o : Occasion} (ho : Occasion.Plain o) {w : World} (hw : Clear name w)
    {known captured : List Entry} (hknown : builtins o w.zone w.now = .ok known)
    (hcaptured : captures w.context = .ok captured) (template : List Char) :
    ∀ e ∈ known ++ faceEntries (thrown template w.dice).1 ++ captured,
      (∃ k, e.1 = braced k) ∧ Braceless e.2 := by
  intro e he
  rcases List.mem_append.mp he with he | he
  · rcases List.mem_append.mp he with he | he
    · obtain ⟨k, hk, -, hclean⟩ := clean_of_builtins ho hknown e he
      exact ⟨⟨k, hk⟩, hclean⟩
    · obtain ⟨face, -, rfl⟩ := List.mem_map.mp he
      exact ⟨⟨_, rfl⟩, braceless_toString face.2⟩
  · obtain ⟨digits, hkey⟩ := exists_of_mem_captures hcaptured he
    exact ⟨⟨_, hkey⟩, hw.captures captured hcaptured e he⟩

variable (hname : reservedNames.contains name = false) {o : Occasion} (ho : Occasion.Plain o)
  {w : World} (hw : Clear name w)

include hname ho hw

/-- **The passes over a template that does not mention a variable** do not see it. -/
theorem passes_forget {known : List Entry} (hknown : builtins o w.zone w.now = .ok known)
    {template : List Char} (h : Avoids name template) :
    passes o (w.forget name) (known ++ faceEntries (thrown template w.dice).1) template =
      passes o w (known ++ faceEntries (thrown template w.dice).1) template := by
  have hgroups : "regex_groups" ≠ name := by
    rintro rfl
    exact absurd hname (by decide)
  have hcaptures : captures (w.forget name).context = captures w.context := by
    unfold captures
    rw [World.forget, Table.get?_without_of_ne hgroups]
  have hentries : contextEntries (w.forget name).context =
      (contextEntries w.context).map (List.filter fun e => e.1 ≠ braced name.toList) :=
    contextEntries_without hname fun e he hkey => (hw.named e he hkey).1
  unfold passes
  rw [hcaptures, hentries]
  rcases hcaptured : captures w.context with f | captured
  · rfl
  rcases hnamed : contextEntries w.context with f | named
  · rfl
  have hearlier := clean_earlier ho hw hknown hcaptured template
  have hlater : ∀ e ∈ named, e.1 ≠ braced name.toList → (∃ k, e.1 = braced k) ∧ Braceless e.2 := by
    intro e he hne
    obtain ⟨x, hx, hreserved, s, hs, rfl⟩ := exists_of_mem_contextEntries hnamed he
    exact ⟨⟨_, rfl⟩, hw.context x hx hreserved (fun hkey => hne (hkey ▸ rfl)) s hs⟩
  have hfill := (h.fill hearlier).fill_filter hlater
  rw [← fill_append, ← fill_append] at hfill
  simp only [Except.map, bind, Except.bind, hfill]
  rfl

/-- **Rendering a template that does not mention a variable** does not see it. -/
theorem render_forget {template : String} (h : Avoids name template.toList) :
    (render o template).Blind (World.forget name) w := by
  unfold Act.Blind
  cases hbrace : template.toList.contains '\x7b' with
  | false => rw [render_plain hbrace, render_plain hbrace]
  | true =>
    rcases hknown : builtins o w.zone w.now with f | known
    · have hforgotten : builtins o (w.forget name).zone (w.forget name).now = .error f := hknown
      rw [run_render_error hbrace hforgotten, run_render_error hbrace hknown]
    · have hforgotten : builtins o (w.forget name).zone (w.forget name).now = .ok known := hknown
      have hdice : thrown template.toList (w.forget name).dice = thrown template.toList w.dice := rfl
      rw [run_render hbrace hforgotten, run_render hbrace hknown]
      simp only [hdice, passes_forget hname ho hw hknown h]
      have hof : ∀ ending : Except Fault String, (Act.of ending).Blind (World.forget name)
          { w with dice := (thrown template.toList w.dice).2 } := fun ending => .of ending
      exact hof _

end

theorem Clear.of_same {name : String} {w u : World} (h : Clear name w)
    (hcontext : u.context = w.context) : Clear name u := by
  obtain ⟨hcaptures, hvariables, hnamed⟩ := h
  exact ⟨hcontext ▸ hcaptures, hcontext ▸ hvariables, hcontext ▸ hnamed⟩

/-- Another variable whose text has no braces may be written. -/
theorem Clear.assign {name key : String} {w : World} (h : Clear name w) (hkey : key ≠ name)
    (hgroups : key ≠ "regex_groups") {v : Value}
    (hv : reservedNames.contains key = false → ∀ s, v.toText = .ok s → Braceless s.toList) :
    Clear name { w with context := w.context.insert key v } where
  captures := by
    have hcaptures : Template.captures (w.context.insert key v) = Template.captures w.context := by
      unfold Template.captures
      rw [Table.get?_insert, if_neg hgroups]
    rw [hcaptures]
    exact h.captures
  context e he hreserved hne s hs := by
    rcases Table.mem_of_mem_insert he with rfl | he
    · exact hv hreserved s hs
    · exact h.context e he hreserved hne s hs
  named e he hname := by
    rcases Table.mem_of_mem_insert he with rfl | he
    · exact absurd hname hkey
    · exact h.named e he hname

end Template

end ChatFlow
