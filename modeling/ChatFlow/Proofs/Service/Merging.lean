import ChatFlow.Proofs.Number.Figures
import ChatFlow.Proofs.Service.Saving
import ChatFlow.Proofs.Workflow.Fields

/-!
# Saving over a workflow

What a request leaves out is kept from the workflow that is stored under its id. The id is compared as
it was sent, so that only text finds a workflow; a number that is written like the id does not, although
what is saved gets that id.

* `Service.Workflows.listing` — what can be left out, and `listing_of_load` — what is there then;
* `Service.Workflows.sentAs_of_load` — the graph is the one that was sent;
* `Service.Workflows.save_over` — **what is saved takes the place of the workflow of its id, and keeps
  what was left out if the id is text**;
* `Service.Workflows.number_forgets` — a number as the id turns the switch on.
-/

namespace ChatFlow

open Schema

namespace Schema

variable {α : Type} {data : Table Value} {key : String} {read : Value → Checked α} {default a : α}
  {v : Value}

theorem Given.read_eq (h : Given data key read a) (hv : data.get? key = some v) : read v = .ok a := by
  obtain ⟨u, hu, hread⟩ := h
  rwa [Option.some.inj (hv.symm.trans hu)]

theorem Taken.read_eq (h : Taken data key read default a) (hv : data.get? key = some v) :
    read v = .ok a := by
  rcases h with hgiven | ⟨hnone, -⟩
  · exact hgiven.read_eq hv
  · cases hv.symm.trans hnone

end Schema

/-- A field of a workflow was read from what its document has in that place. -/
theorem Workflow.read_of_arranged {α : Type} {data : Table Value} {key : String}
    {read : Value → Checked α} {default a : α} {u : Value}
    (h : Taken (arranged data) key read default a) (hnodes : key ≠ "nodes")
    (hconnections : key ≠ "connections") (hu : data.get? key = some u) : read u = .ok a :=
  h.read_eq ((get?_arranged_of_ne data hnodes hconnections).trans hu)

theorem Workflow.orNoItems_eq {v : Value} (h : v ≠ .null) : orNoItems (some v) = v := by
  cases v with
  | null => exact absurd rfl h
  | _ => rfl

namespace Service.Workflows

/-! ## What is kept, and what is sent -/

/-- **What the list of workflows shows of one**: its name, when it fires, on what, and its switch. -/
def listing (w : Workflow) : String × String × String × Bool :=
  (w.name, w.triggerType, w.triggerContent, w.enabled)

/-- What the list shows of a workflow of which nothing was said. -/
def blankListing : String × String × String × Bool := ("untitled", "exact", "", true)

/-- The entries that say what the list shows. -/
def listedKeys : List String := ["name", "trigger_type", "trigger_content", "enabled"]

/-- **Whether a workflow has its graph as it was sent.** -/
structure SentAs (entries : Table Value) (x : Workflow) : Prop where
  /-- the nodes -/
  nodes : items Node.read (Workflow.listed (Value.orNull (entries.get? "nodes"))) = .ok x.nodes
  /-- the connections -/
  connections : items Connection.read (presentOr entries "connections" (.list [])) =
    .ok x.connections
  /-- whether later workflows do not see its messages -/
  stopPropagation : x.stopPropagation = (Value.orNull (entries.get? "stop_propagation")).present

theorem presentOr_of_none {entries : Table Value} {key : String} (h : entries.get? key = none)
    (default : Value) : presentOr entries key default = default := by
  rw [presentOr, h]
  rfl

theorem givenOr_of_none {entries : Table Value} {key : String} (h : entries.get? key = none)
    (default : Value) : givenOr entries key default = default := by
  rw [givenOr, h]

theorem presentOr_ne_null {entries : Table Value} {key : String} {default : Value}
    (h : default ≠ .null) : presentOr entries key default ≠ .null := by
  rw [presentOr]
  split
  · next hpresent =>
    intro hnull
    rw [hnull] at hpresent
    cases hpresent
  · exact h

section

variable {entries : Table Value} {id : Value} {stored : Option Workflow} {x : Workflow}
  (h : Workflow.load (documentOf id (Value.orNull (entries.get? "nodes")) entries stored) = .ok x)

include h

theorem text_id_of_load : text id = .ok x.id :=
  (Workflow.made_of_load h).id.read_eq
    ((Workflow.get?_arranged_of_ne _ (by decide) (by decide)).trans rfl)

/-- **What a request leaves out** is what is stored, or else nothing in particular. -/
theorem listing_of_load (homitted : ∀ key ∈ listedKeys, entries.get? key = none) :
    listing x = (stored.map listing).getD blankListing := by
  have hmade := Workflow.made_of_load h
  simp only [listedKeys, List.forall_mem_cons] at homitted
  obtain ⟨hname, htype, hcontent, henabled, -⟩ := homitted
  have hname' := Workflow.read_of_arranged hmade.name (by decide) (by decide) rfl
  have htype' := Workflow.read_of_arranged hmade.triggerType (by decide) (by decide) rfl
  have hcontent' := Workflow.read_of_arranged hmade.triggerContent (by decide) (by decide) rfl
  have henabled' := Workflow.read_of_arranged hmade.enabled (by decide) (by decide) rfl
  rw [presentOr_of_none hname] at hname'
  rw [presentOr_of_none htype] at htype'
  rw [givenOr_of_none hcontent] at hcontent'
  rw [givenOr_of_none henabled] at henabled'
  cases stored
  all_goals
    rw [listing, ← Except.ok.inj hname', ← Except.ok.inj htype', ← Except.ok.inj hcontent',
      ← Except.ok.inj henabled']
    rfl

theorem sentAs_of_load : SentAs entries x := by
  have hmade := Workflow.made_of_load h
  constructor
  · refine hmade.nodes.read_eq ?_
    rw [Workflow.get?_arranged, if_neg (by decide), if_pos rfl]
    rfl
  · refine hmade.connections.read_eq ?_
    rw [Workflow.get?_arranged, if_pos rfl]
    exact congrArg some (Workflow.orNoItems_eq (presentOr_ne_null nofun))
  · have hstop := Workflow.read_of_arranged hmade.stopPropagation (by decide) (by decide) rfl
    exact (Except.ok.inj hstop).symm

end

/-! ## What an id finds -/

/-- Text finds the first workflow of that id. -/
theorem storedUnder_text {w : Workflow} {before after : List Workflow}
    (hfirst : ∀ y ∈ before, y.id ≠ w.id) (hpresent : (Value.text w.id).present = true) :
    storedUnder (.text w.id) (before ++ w :: after) = some w := by
  rw [storedUnder, if_pos hpresent, List.find?_append,
    List.find?_eq_none.mpr fun y hy => by simpa [isNamed] using hfirst y hy, Option.none_or]
  exact List.find?_cons_of_pos (by simp [isNamed])

/-- What is no text finds nothing. -/
theorem storedUnder_other {v : Value} (h : ∀ s, v ≠ .text s) (workflows : List Workflow) :
    storedUnder v workflows = none := by
  rw [storedUnder]
  split
  · refine List.find?_eq_none.mpr fun w _ => ?_
    cases v with
    | text s => exact absurd rfl (h s)
    | _ => exact Bool.false_ne_true
  · rfl

/-- A new id is not the text of a value that says nothing. -/
theorem ne_of_blank {kind : Number → Prop} {v : Value} (hv : Json.Storable kind v)
    (hblank : v.present = false) {s : String} (hs : text v = .ok s) (rest : String) :
    "wf_" ++ rest ≠ s := by
  cases hv with
  | @number n _ =>
    -- no number is written with an underscore
    rintro rfl
    refine numberText_ne n ?_ (Except.ok.inj hs)
    rw [String.toList_append, List.all_append]
    rfl
  | text t =>
    obtain rfl : t = "" := by simpa [Value.present] using hblank
    obtain rfl := Except.ok.inj hs
    intro h
    have hlength := congrArg (fun s : String => s.toList.length) h
    simp at hlength
  | _ => cases hs

/-! ## Saving over a workflow -/

theorem not_unsaved_success {reason : Fault → Prop} {fields : Table Value} :
    ¬ Unsaved reason (.done (Reply.success fields)) := by
  intro h
  generalize hreply : Outcome.done (Reply.success fields) = ending at h
  cases h <;> simp [Reply.success, Reply.refusal, Reply.locked, Reply.entries] at hreply

/-- **Saving over a workflow keeps what the request leaves out, if the id is sent as text.** A request
that leaves out the name, when the workflow fires, on what, and its switch, is carried out; its id
denotes a workflow that is stored. If the id says something, what is saved takes the place of that
workflow, with the graph that was sent, and no other workflow is changed. It keeps what was left out if
the id is text; if it is a number, nothing is kept. If the id says nothing, zero for instance, what is
saved gets an id of its own. -/
theorem save_over (host : Host) {r : Request} {entries : Table Value}
    (hentries : r.entries = .ok entries) {bot t : Bot} (hclock : bot.world.seconds?.isSome)
    (hremembered : ∀ workflows, bot.remembered = some workflows → ∀ w ∈ workflows, w.Sound)
    {w : Workflow} {before after : List Workflow}
    (hload : (Archive.load bot.archive).1 = .done (before ++ w :: after))
    (hfirst : ∀ y ∈ before, y.id ≠ w.id) {v : Value} (hid : entries.get? "id" = some v)
    (hdenotes : text v = .ok w.id) (homitted : ∀ key ∈ listedKeys, entries.get? key = none)
    {fields : Table Value} (hsaved : save host r bot = (.done (Reply.success fields), t)) :
    ∃ x, SentAs entries x ∧
      (v.present = true → x.id = w.id ∧ t.archive.Filed (before ++ x :: after) ∧
        ((∃ s, v = .text s) → listing x = listing w) ∧
        ((∀ s, v ≠ .text s) → listing x = blankListing)) ∧
      (v.present = false → x.id ≠ w.id ∧ listing x = blankListing ∧
        t.archive.Filed (Archive.place x (before ++ w :: after))) := by
  have hbot : bot.archive.Stocked Workflow.Sound := Archive.stocked_of_remembered hremembered
  have hgiven : Value.orNull (entries.get? "id") = v := by rw [hid]; rfl
  have hstorable : Json.Storable Number.Writable v := (Request.storable_entries hentries).get? hid
  rcases save_cases host hentries hclock hbot with ⟨workflows, id, x, hworkflows, hnames, hx⟩ | hdown
  · obtain rfl := Outcome.done.inj (hload.symm.trans hworkflows)
    have hloaded := hx.loaded
    have hfiled := hx.filed
    rw [hsaved] at hfiled
    rw [documentAmong, hgiven] at hloaded
    rw [hgiven] at hnames
    have hlisting := listing_of_load hloaded homitted
    have hxid := text_id_of_load hloaded
    refine ⟨x, sentAs_of_load hloaded, fun hpresent => ?_, fun hblank => ?_⟩
    · cases hnames with
      | fresh hblank _ => exact absurd hpresent (Bool.eq_false_iff.mp hblank)
      | sent _ =>
        have hsame : x.id = w.id := Except.ok.inj (hxid.symm.trans hdenotes)
        rw [Archive.place_eq hfirst hsame] at hfiled
        refine ⟨hsame, hfiled, ?_, fun hother => ?_⟩
        · rintro ⟨s, rfl⟩
          obtain rfl : s = w.id := Except.ok.inj hdenotes
          rwa [storedUnder_text hfirst hpresent] at hlisting
        · rwa [storedUnder_other hother] at hlisting
    · cases hnames with
      | sent hpresent => exact absurd hpresent (Bool.eq_false_iff.mp hblank)
      | fresh _ rest =>
        have hfresh : "wf_" ++ rest = x.id := Except.ok.inj hxid
        rw [storedUnder, if_neg (Bool.eq_false_iff.mp hblank)] at hlisting
        exact ⟨hfresh ▸ ne_of_blank hstorable hblank hdenotes rest, hlisting, hfiled⟩
  · have hending := hdown.ending
    rw [hsaved] at hending
    exact absurd hending not_unsaved_success

/-! ## A dial -/

namespace Dial

/-- A workflow whose id is written like a number, switched off. -/
def workflow : Workflow := ⟨"7", "dial", "contains", "go", false, false, [], [], ⟨[], []⟩⟩

/-- A bot that remembers it. -/
def bot : Bot := { Bot.inWorldOf Loop.world with remembered := some [workflow] }

/-- One node, sent under an id. -/
def entries (id : Value) : Table Value :=
  [("id", id), ("nodes", .list [.object [("id", .text "wait"), ("type", .text "delay")]])]

/-- They leave out what the list shows. -/
theorem omitted (id : Value) : ∀ key ∈ listedKeys, (entries id).get? key = none := by
  simp only [listedKeys, List.forall_mem_cons]
  exact ⟨rfl, rfl, rfl, rfl, List.forall_mem_nil _⟩

/-- The entries as they are written, with the id as it is written. -/
def content (id : String) : String :=
  "\x7b\n  \"id\": " ++ id ++ ",\n  \"nodes\": [\n    \x7b\n      \"id\": \"wait\"," ++
  "\n      \"type\": \"delay\"\n    \x7d\n  ]\n\x7d"

theorem entries_text : (Slip.sent (content "\"7\"")).entries = .ok (entries (.text "7")) :=
  (Slip.sends_sent (by simp [entries, Json.Exact, Json.FieldsExact, Json.ItemsExact, Table.keys])
    (by decide +kernel) (by decide)).entries

theorem entries_number : (Slip.sent (content "7")).entries = .ok (entries (.int 7)) :=
  (Slip.sends_sent
    (by simp [entries, Value.int, Json.Exact, Json.FieldsExact, Json.ItemsExact, Table.keys])
    (by decide +kernel) (by decide)).entries

end Dial

/-- A dial that is saved under its id as text stays switched off. -/
theorem save_over_dial : ∃ t x,
    save Slip.host (Slip.sent (Dial.content "\"7\"")) Dial.bot =
      (.done (Reply.success [("data", .object [("id", .text "7")])]), t) ∧
    x.id = Dial.workflow.id ∧ t.archive.Filed [x] ∧ listing x = listing Dial.workflow := by
  have hsaved : ∃ t, save Slip.host (Slip.sent (Dial.content "\"7\"")) Dial.bot =
      (.done (Reply.success [("data", .object [("id", .text "7")])]), t) := by
    rw [save_eq Slip.host Dial.entries_text]
    exact ⟨_, rfl⟩
  obtain ⟨t, hsaved⟩ := hsaved
  have hremembered : ∀ workflows, Dial.bot.remembered = some workflows →
      ∀ w ∈ workflows, w.Sound := by
    intro workflows h
    obtain rfl := Option.some.inj h
    exact List.forall_mem_singleton.mpr ⟨List.forall_mem_nil _, List.forall_mem_nil _, rfl⟩
  have hload : (Archive.load Dial.bot.archive).1 = .done ([] ++ Dial.workflow :: []) := rfl
  obtain ⟨x, -, hkept, -⟩ := save_over Slip.host Dial.entries_text (by decide) hremembered hload
    (List.forall_mem_nil _) rfl rfl (Dial.omitted _) hsaved
  obtain ⟨hid, hfiled, hlisting, -⟩ := hkept rfl
  exact ⟨t, x, hsaved, hid, hfiled, hlisting ⟨"7", rfl⟩⟩

/-- **A dial that is saved under its id as a number is switched on**, and forgets its name, although the
number denotes its id and nothing was said of either. -/
theorem number_forgets :
    (Slip.sent (Dial.content "7")).entries = .ok (Dial.entries (.int 7)) ∧
    (Archive.load Dial.bot.archive).1 = .done [Dial.workflow] ∧
    text (.int 7) = .ok Dial.workflow.id ∧
    (∀ key ∈ listedKeys, (Dial.entries (.int 7)).get? key = none) ∧ ∃ t x,
      save Slip.host (Slip.sent (Dial.content "7")) Dial.bot =
        (.done (Reply.success [("data", .object [("id", .text "7")])]), t) ∧
      (Archive.load t.archive).1 = .done [x] ∧ x.id = Dial.workflow.id ∧
      Dial.workflow.enabled = false ∧ x.enabled = true ∧ x.name ≠ Dial.workflow.name := by
  refine ⟨Dial.entries_number, rfl, rfl, Dial.omitted _, ?_⟩
  rw [save_eq Slip.host Dial.entries_number]
  exact ⟨_, _, rfl, rfl, rfl, rfl, rfl, by decide⟩

end Service.Workflows

end ChatFlow
