import ChatFlow.Proofs.Clock.Timestamp
import ChatFlow.Proofs.Service.Management
import ChatFlow.Proofs.Service.Stumbling
import ChatFlow.Proofs.Workflow.Filing

/-!
# Saving

A workflow that was sent is saved, or turned down, or the service fails. Two limits on what can be
written lie outside of this: a value that is nested some 250 levels deep is not dumped, and half of a
surrogate pair is not encoded. So what is sent is asked to be whole text and not too deep, and so is
what is stored already, for it is written again with it.

* `Request.Sends` — a map that is sent, `Archive.Rewritable` — an archive that can be written again;
* `Service.Stored` — whether a document was filed as a workflow;
* `Service.TurnedDown` — whether nothing was saved, and what was answered instead;
* `Service.Workflows.store_cases`, `saveNodes_cases`, `save_cases` — how saving ends, one step at a
  time;
* `Service.Workflows.save_answers` — **every map is answered but those that the gate stumbles over, and
  nothing shows of a workflow that is not saved**.
-/

namespace ChatFlow

/-! ## What can be written -/

namespace Value

mutual

/-- **How deep lists and maps are nested** in a value. -/
def depth : Value → Nat
  | .list items | .tuple items => depthItems items + 1
  | .object fields => depthFields fields + 1
  | _ => 0

/-- The depth of the deepest item. -/
def depthItems : List Value → Nat
  | [] => 0
  | v :: rest => max (depth v) (depthItems rest)

/-- The depth of the deepest entry. -/
def depthFields : List (String × Value) → Nat
  | [] => 0
  | (_, v) :: rest => max (depth v) (depthFields rest)

end

/-- How deep a value may be nested here. -/
def depthLimit : Nat := 200

end Value

/-- **An archive that can be written again**: the workflows that it remembers are sound, neither they
nor the document of its file are nested too deep, and no text of the file has half of a pair. -/
structure Archive.Rewritable (a : Archive) : Prop where
  /-- what is remembered is sound -/
  sound (workflows : List Workflow) (h : a.remembered = some workflows) : ∀ w ∈ workflows, w.Sound
  /-- and not too deep -/
  shallow (workflows : List Workflow) (h : a.remembered = some workflows) :
    ∀ w ∈ workflows, w.document.depth ≤ Value.depthLimit
  /-- what the file shows is what it holds, and is not too deep -/
  file (bytes : List UInt8) (h : a.disk.read Archive.file = .content bytes) (s : List Char)
    (hs : Utf8.decode? bytes = some s) (v : Value) (hv : Json.shown? (Json.readChars s) = some v) :
    Json.readChars s = .ok v ∧ v.depth ≤ Value.depthLimit

namespace Service

/-- **A map that is sent as a document**, as whole text and not too deep. -/
structure Request.Sends (r : Request) (entries : Table Value) : Prop where
  /-- the body is taken for a document -/
  json : r.hasJson = true
  /-- the document is the map, and no text in it has half of a pair -/
  document : Json.readBytes r.body = some (.ok (.object entries))
  /-- the map is not nested too deep -/
  shallow : (Value.object entries).depth ≤ Value.depthLimit

theorem Request.Sends.entries {r : Request} {entries : Table Value} (h : r.Sends entries) :
    r.entries = .ok entries := Request.entries_of_readBytes h.json h.document

/-! ## Endings -/

/-- **Whether a document was filed as a workflow**, and the reply names it. -/
structure Stored (document : Value) (workflows : List Workflow) (x : Workflow)
    (run : Outcome Reply × Bot) : Prop where
  /-- the document is loaded -/
  loaded : Workflow.load document = .ok x
  /-- the reply is that of success -/
  reply : run.1 = .done (Reply.success [("data", .object [("id", .text x.id)])])
  /-- the workflow is among the others -/
  filed : run.2.archive.Filed (Archive.place x workflows)

/-- **How it ends where nothing is saved**: with a refusal that says why, with the request for the
password, or with a fault for which there is a reason. -/
inductive Unsaved (reason : Fault → Prop) : Outcome Reply → Prop where
  /-- with a refusal -/
  | refused (error : String) : Unsaved reason (.done (Reply.refusal error))
  /-- with the request for the password -/
  | locked : Unsaved reason (.done Reply.locked)
  /-- with a fault -/
  | failed {f : Fault} (h : reason f) : Unsaved reason (.failed f)

/-- **Whether nothing was saved**, and nothing shows of it. -/
structure TurnedDown (reason : Fault → Prop) (a : Archive) (run : Outcome Reply × Bot) : Prop where
  /-- the ending says so -/
  ending : Unsaved reason run.1
  /-- the archive is as it was -/
  archive : a.Unseen run.2.archive

theorem Unsaved.mono {reason reason' : Fault → Prop} (h : ∀ f, reason f → reason' f)
    {ending : Outcome Reply} (hending : Unsaved reason ending) : Unsaved reason' ending := by
  cases hending with
  | refused error => exact .refused error
  | locked => exact .locked
  | failed hf => exact .failed (h _ hf)

/-- A reply that leaves the bot as it is. -/
theorem turnedDown_refusal (reason : Fault → Prop) (error : String) (bot : Bot) :
    TurnedDown reason bot.archive ((pure (Reply.refusal error) : Endeavour) bot) :=
  ⟨.refused error, .refl _⟩

/-- Whether the archive cannot be loaded for a fault. -/
def Unloaded (a : Archive) (f : Fault) : Prop := (Archive.load a).1 = .failed f

/-- **Whether nothing shows of a step**, and the clock stands still. -/
structure Traceless (s t : Bot) : Prop where
  /-- nothing shows in the archive -/
  archive : s.archive.Unseen t.archive
  /-- its workflows stay sound -/
  stocked (h : s.archive.Stocked Workflow.Sound) : t.archive.Stocked Workflow.Sound
  /-- the clock stands still -/
  seconds? : t.world.seconds? = s.world.seconds?

namespace Traceless

variable {s t u : Bot}

theorem refl (s : Bot) : Traceless s s := ⟨.refl _, id, rfl⟩

theorem trans (h : Traceless s t) (h' : Traceless t u) : Traceless s u :=
  ⟨h.archive.trans h'.archive, fun hs => h'.stocked (h.stocked hs), h'.seconds?.trans h.seconds?⟩

end Traceless

theorem Host.guarded_eq_or (host : Host) (r : Request) (body : Value) (act : Endeavour) :
    host.guarded r body act = act ∨ host.guarded r body act = pure Reply.locked :=
  ite_eq_or_eq _ _ _

namespace Workflows

/-! ## One step at a time -/

/-- **A document is filed as a workflow**, or turned down. -/
theorem store_cases {document : Value} (h : ∀ w, Workflow.load document = .ok w → w.Sound) {bot : Bot}
    (hbot : bot.archive.Stocked Workflow.Sound) :
    (∃ workflows x, (Archive.load bot.archive).1 = .done workflows ∧
      Stored document workflows x (store document bot)) ∨
    TurnedDown (Unloaded bot.archive) bot.archive (store document bot) := by
  rw [store]
  rcases hload : Workflow.load document with f | x
  · exact .inr (turnedDown_refusal _ _ bot)
  dsimp only
  have harchive (ended : Outcome Bool) (b : Archive)
      (hrun : Archive.upsert x bot.archive = (ended, b)) :
      Bot.inArchive (Archive.upsert x) bot = (ended, bot.withArchive b) := by
    rw [Bot.inArchive, Act.run_inside, hrun]
  rcases Archive.upsert_cases hbot (h x hload) with ⟨workflows, b, hworkflows, hrun, hfiled⟩ |
    ⟨b, hrun, hsame⟩ | ⟨f, b, hunread, hrun, hsame⟩
  · refine .inl ⟨workflows, x, hworkflows, hload, ?_, ?_⟩ <;>
      rw [Act.run_bind_done (harchive _ b hrun)]
    · rfl
    · exact hfiled
  · right
    rw [Act.run_bind_done (harchive _ b hrun)]
    exact ⟨.refused _, hsame⟩
  · right
    rw [Act.run_bind_failed (harchive _ b hrun)]
    exact ⟨.failed hunread, hsame⟩

/-- Whether a workflow is stored under an id, as it was sent. -/
def isNamed (id : Value) (w : Workflow) : Bool :=
  match id with
  | .text s => w.id = s
  | _ => false

/-- **The workflow that is stored under an id**, as it was sent. -/
def storedUnder (id : Value) (workflows : List Workflow) : Option Workflow :=
  if id.present then workflows.find? (isNamed id) else none

/-- **What is stored under an id is looked up without a trace**, where the archive can be loaded. -/
theorem existing?_cases (id : Value) (bot : Bot) :
    (∃ stored t, existing? id bot = (.done stored, t) ∧ Traceless bot t ∧
      ∀ workflows, (Archive.load bot.archive).1 = .done workflows →
        stored = storedUnder id workflows) ∨
    ∃ f t, Unloaded bot.archive f ∧ existing? id bot = (.failed f, t) ∧ Traceless bot t := by
  rw [existing?]
  split
  · next hpresent =>
    have htraceless : Traceless bot (bot.withArchive (Archive.load bot.archive).2) :=
      ⟨Archive.unseen_load _, fun h => h.load, rfl⟩
    rcases hload : Archive.load bot.archive with ⟨workflows | f | _, b⟩ <;> rw [hload] at htraceless
    · have hrun : Bot.inArchive Archive.load bot = (.done workflows, bot.withArchive b) := by
        rw [Bot.inArchive, Act.run_inside, hload]
      refine .inl ⟨_, _, Act.run_bind_done hrun, htraceless, fun others hothers => ?_⟩
      obtain rfl := Outcome.done.inj hothers
      exact (if_pos hpresent).symm
    · have hrun : Bot.inArchive Archive.load bot = (.failed f, bot.withArchive b) := by
        rw [Bot.inArchive, Act.run_inside, hload]
      exact .inr ⟨f, _, congrArg Prod.fst hload, Act.run_bind_failed hrun, htraceless⟩
    · exact absurd hload (Archive.load_ne_hung _ b)
  · next hnone =>
    exact .inl ⟨none, bot, rfl, .refl bot, fun _ _ => (if_neg hnone).symm⟩

/-! ## New ids -/

theorem exists_chanceText (count : Nat) (bot : Bot) :
    ∃ s t, chanceText count bot = (.done s, t) ∧ Traceless bot t := by
  induction count generalizing bot with
  | zero => exact ⟨"", bot, rfl, .refl bot⟩
  | succ count ih =>
    have hchosen : ∃ sign t, Bot.inWorld (World.choose idSigns "") bot = (.done sign, t) ∧
        Traceless bot t := ⟨_, _, rfl, ⟨.refl _, id, rfl⟩⟩
    obtain ⟨sign, t, hsign, hfirst⟩ := hchosen
    obtain ⟨s, u, hs, hrest⟩ := ih t
    refine ⟨sign ++ s, u, ?_, hfirst.trans hrest⟩
    rw [chanceText, Act.run_bind_done hsign, Act.run_bind_done hs]
    rfl

/-- **A new id is found**, where the clock has a timestamp. -/
theorem exists_freshId {bot : Bot} (hclock : bot.world.seconds?.isSome) :
    ∃ rest t, freshId bot = (.done ("wf_" ++ rest), t) ∧ Traceless bot t := by
  obtain ⟨seconds, hseconds⟩ : ∃ seconds, Bot.timestamp bot = (.done seconds, bot) := by
    obtain ⟨n, hn⟩ := Option.isSome_iff_exists.mp hclock
    exact ⟨_, Act.run_of_ok (Moment.timestamp_of_seconds? hn) bot⟩
  obtain ⟨suffix, t, hsuffix, htraceless⟩ := exists_chanceText chanceLength bot
  refine ⟨hexText ((seconds.mul (Double.ofInt 1000)).truncate?.getD 0) ++ suffix, t, ?_, htraceless⟩
  rw [freshId, Act.run_bind_done hseconds, Act.run_bind_done hsuffix, ← String.append_assoc]
  rfl

/-- **The id that a workflow gets**: the one that was sent, or a new one. -/
inductive Names (given : Value) : Value → Prop where
  /-- the one that was sent -/
  | sent (h : given.present = true) : Names given given
  /-- a new one -/
  | fresh (h : given.present = false) (rest : String) : Names given (.text ("wf_" ++ rest))

theorem Names.storable {kind : Number → Prop} {given id : Value} (h : Names given id)
    (hgiven : Json.Storable kind given) : Json.Storable kind id := by
  cases h with
  | sent _ => exact hgiven
  | fresh _ rest => exact .text _

/-! ## Saving -/

/-- The document of a workflow as it was sent, among the workflows at hand. -/
def documentAmong (entries : Table Value) (workflows : List Workflow) (id : Value) : Value :=
  documentOf id (Value.orNull (entries.get? "nodes")) entries
    (storedUnder (Value.orNull (entries.get? "id")) workflows)

/-- **Whether what was sent was saved**: filed as a workflow among those at hand. -/
def Saves (entries : Table Value) (bot : Bot) (run : Outcome Reply × Bot) : Prop :=
  ∃ workflows id x, (Archive.load bot.archive).1 = .done workflows ∧
    Names (Value.orNull (entries.get? "id")) id ∧
    Stored (documentAmong entries workflows id) workflows x run

section

variable {entries : Table Value} (hentries : Json.Storable Number.Writable (.object entries))
  {bot : Bot} (hbot : bot.archive.Stocked Workflow.Sound)

include hentries hbot

/-- **The document of what was sent is filed**, or turned down, once there is an id. -/
theorem storeAmong_cases {stored : Option Workflow} {t : Bot} (ht : Traceless bot t)
    (hfound : ∀ workflows, (Archive.load bot.archive).1 = .done workflows →
      stored = storedUnder (Value.orNull (entries.get? "id")) workflows)
    {id : Value} (hnames : Names (Value.orNull (entries.get? "id")) id) :
    Saves entries bot
      (store (documentOf id (Value.orNull (entries.get? "nodes")) entries stored) t) ∨
    TurnedDown (Unloaded bot.archive) bot.archive
      (store (documentOf id (Value.orNull (entries.get? "nodes")) entries stored) t) := by
  have hdocument := storable_documentOf hentries (hnames.storable (storable_orNull hentries "id"))
    (storable_orNull hentries "nodes") stored
  rcases store_cases (fun w => Workflow.sound_of_load hdocument) (ht.stocked hbot) with
    ⟨workflows, x, hload, hx⟩ | hdown
  · rw [ht.archive.load] at hload
    rw [hfound workflows hload] at hx ⊢
    exact .inl ⟨workflows, id, x, hload, hnames, hx⟩
  · refine .inr ⟨hdown.ending.mono fun f hf => ?_, ht.archive.trans hdown.archive⟩
    exact ht.archive.load.symm.trans hf

theorem saveNodes_cases (hclock : bot.world.seconds?.isSome) :
    Saves entries bot (saveNodes entries (Value.orNull (entries.get? "nodes")) bot) ∨
    TurnedDown (Unloaded bot.archive) bot.archive
      (saveNodes entries (Value.orNull (entries.get? "nodes")) bot) := by
  rw [saveNodes]
  rcases existing?_cases (Value.orNull (entries.get? "id")) bot with
    ⟨stored, t, hstored, ht, hfound⟩ | ⟨f, t, hunread, hfailed, ht⟩
  · rw [Act.run_bind_done hstored]
    split
    · next hpresent => exact storeAmong_cases hentries hbot ht hfound (.sent hpresent)
    · next hnone =>
      obtain ⟨rest, u, hfresh, hu⟩ := exists_freshId (ht.seconds? ▸ hclock)
      rw [Act.run_bind_done hfresh]
      exact storeAmong_cases hentries hbot (ht.trans hu) hfound
        (.fresh (Bool.eq_false_iff.mpr hnone) rest)
  · rw [Act.run_bind_failed hfailed]
    exact .inr ⟨.failed hunread, ht.archive⟩

end

/-- What is done with a workflow that the gate lets pass. -/
def pass (entries : Table Value) : Endeavour :=
  match Value.orNull (entries.get? "nodes") with
  | .null => return Reply.refusal "missing nodes"
  | nodes => if nodes.present then saveNodes entries nodes else return Reply.refusal "no nodes"

/-- A workflow without nodes is turned down. -/
theorem pass_cases (entries : Table Value) :
    pass entries = saveNodes entries (Value.orNull (entries.get? "nodes")) ∨
      ∃ error, pass entries = pure (Reply.refusal error) := by
  unfold pass
  split
  · exact .inr ⟨_, rfl⟩
  · split
    · exact .inl rfl
    · exact .inr ⟨_, rfl⟩

theorem save_eq (host : Host) {r : Request} {entries : Table Value}
    (hentries : r.entries = .ok entries) :
    save host r = Act.of (Gate.needsMaster (.object entries)) >>= fun needs =>
      if needs then host.guarded r (Value.orNull (entries.get? passwordKey)) (pass entries)
      else pass entries := by
  rw [save, hentries]
  rfl

/-- **How saving ends**: what was sent is filed as a workflow; or nothing is saved. Where that is for a
fault, the gate stumbled over what was sent, or the archive cannot be loaded. -/
theorem save_cases (host : Host) {r : Request} {entries : Table Value}
    (hentries : r.entries = .ok entries) {bot : Bot} (hclock : bot.world.seconds?.isSome)
    (hbot : bot.archive.Stocked Workflow.Sound) :
    Saves entries bot (save host r bot) ∨
    TurnedDown (fun f => Gate.Stumbles entries ∨ Unloaded bot.archive f) bot.archive
      (save host r bot) := by
  have hstorable := Request.storable_entries hentries
  have hpass : Saves entries bot (pass entries bot) ∨
      TurnedDown (fun f => Gate.Stumbles entries ∨ Unloaded bot.archive f) bot.archive
        (pass entries bot) := by
    rcases pass_cases entries with hpass | ⟨error, hpass⟩ <;> rw [hpass]
    · exact (saveNodes_cases hstorable hbot hclock).imp_right fun h =>
        ⟨h.ending.mono fun _ => .inr, h.archive⟩
    · exact .inr (turnedDown_refusal _ error bot)
  rw [save_eq host hentries]
  rcases hneeds : Gate.needsMaster (.object entries) with f | needs
  · have hstumbles := (Gate.needsMaster_error_iff hstorable).mp ⟨f, hneeds⟩
    exact .inr ⟨.failed (.inl hstumbles), .refl _⟩
  · rw [Act.run_bind_done (Act.run_of_ok rfl bot)]
    cases needs with
    | false => exact hpass
    | true =>
      rw [if_pos rfl]
      rcases host.guarded_eq_or r (Value.orNull (entries.get? passwordKey)) (pass entries) with
        hopen | hlocked
      · rwa [hopen]
      · rw [hlocked]
        exact .inr ⟨.locked, .refl _⟩

/-- **Every map that can be written is answered, but those that the gate stumbles over.** A map is sent
that is whole text and not nested too deep, to a bot whose clock has a timestamp and whose archive can
be written again. If the gate stumbles over it, the service fails and the bot is as it was. Otherwise
the map is saved as a workflow, or turned down in so many words, or the archive cannot be loaded; and
unless it is saved, nothing shows of it in the archive. -/
theorem save_answers (host : Host) {r : Request} {entries : Table Value} (hsends : r.Sends entries)
    {bot : Bot} (hclock : bot.world.seconds?.isSome) (harchive : bot.archive.Rewritable) :
    (Gate.Stumbles entries → ∃ f, save host r bot = (.failed f, bot)) ∧
    (Saves entries bot (save host r bot) ∨
      TurnedDown (fun f => Gate.Stumbles entries ∨ Unloaded bot.archive f) bot.archive
        (save host r bot)) := by
  have hentries := hsends.entries
  have hbot : bot.archive.Stocked Workflow.Sound := Archive.stocked_of_remembered harchive.sound
  refine ⟨fun hstumbles => ?_, save_cases host hentries hclock hbot⟩
  obtain ⟨f, hf⟩ := (Gate.needsMaster_error_iff (Request.storable_entries hentries)).mpr hstumbles
  refine ⟨f, ?_⟩
  rw [save_eq host hentries, hf]
  rfl

/-! ## Slips -/

namespace Slip

/-- A bot that remembers nothing. -/
def bot : Bot := Bot.inWorldOf Loop.world

/-- A host without a password. -/
def host : Host := ⟨Settings.default, none⟩

/-- A body sent to be saved. -/
def sent (content : String) : Request := ⟨"POST", ⟨"/save", []⟩, none, Utf8.encode content.toList⟩

theorem sends_sent {entries : Table Value} {content : String}
    (hexact : Json.Exact (.object entries))
    (hcontent : Json.write .stored (.object entries) = .ok content)
    (hdepth : (Value.object entries).depth ≤ Value.depthLimit) : (sent content).Sends entries where
  json := rfl
  document := Json.readBytes_encode Json.Layout.readable_stored hexact hcontent
  shallow := hdepth

theorem rewritable_bot : bot.archive.Rewritable := ⟨nofun, nofun, nofun⟩

/-- A trigger with text for its data. -/
def triggerEntries : Table Value :=
  [("nodes", .list [.object [("id", .text "ask"), ("type", .text "trigger"), ("data", .text "any")]])]

/-- The trigger as it is written. -/
def triggerContent : String :=
  "\x7b\n  \"nodes\": [\n    \x7b\n      \"id\": \"ask\",\n      \"type\": \"trigger\"," ++
  "\n      \"data\": \"any\"\n    \x7d\n  ]\n\x7d"

/-- A number for the nodes. -/
def numberEntries : Table Value := [("nodes", .int 5)]

/-- The number as it is written. -/
def numberContent : String := "\x7b\n  \"nodes\": 5\n\x7d"

theorem sends_trigger : (sent triggerContent).Sends triggerEntries :=
  sends_sent (by simp [triggerEntries, Json.Exact, Json.FieldsExact, Json.ItemsExact, Table.keys])
    (by decide +kernel) (by decide)

theorem sends_number : (sent numberContent).Sends numberEntries :=
  sends_sent (by simp [numberEntries, Value.int, Json.Exact, Json.FieldsExact, Table.keys])
    (by decide +kernel) (by decide)

end Slip

/-- The gate stumbles over a trigger with text for its data, and nothing shows of it. -/
theorem save_answers_trigger :
    (Slip.sent Slip.triggerContent).Sends Slip.triggerEntries ∧ Slip.bot.archive.Rewritable ∧
    Gate.Stumbles Slip.triggerEntries ∧
    (∃ f, save Slip.host (Slip.sent Slip.triggerContent) Slip.bot = (.failed f, Slip.bot)) ∧
    (Saves Slip.triggerEntries Slip.bot (save Slip.host (Slip.sent Slip.triggerContent) Slip.bot) ∨
      TurnedDown (fun f => Gate.Stumbles Slip.triggerEntries ∨ Unloaded Slip.bot.archive f)
        Slip.bot.archive (save Slip.host (Slip.sent Slip.triggerContent) Slip.bot)) := by
  have hstumbles : Gate.Stumbles Slip.triggerEntries :=
    ⟨rfl, .inr ⟨_, rfl, .here ⟨by decide, by decide, nofun⟩⟩⟩
  have hclock : Slip.bot.world.seconds?.isSome := by decide
  obtain ⟨hfailed, hending⟩ :=
    save_answers Slip.host Slip.sends_trigger hclock Slip.rewritable_bot
  exact ⟨Slip.sends_trigger, Slip.rewritable_bot, hstumbles, hfailed hstumbles, hending⟩

/-- **A map is not always answered**: the service fails for one that has a number in the place of its
nodes. -/
theorem number_unanswered :
    (Slip.sent Slip.numberContent).Sends Slip.numberEntries ∧
    save Slip.host (Slip.sent Slip.numberContent) Slip.bot =
      (.failed (.wrongType "'int' object is not iterable"), Slip.bot) := by
  refine ⟨Slip.sends_number, ?_⟩
  rw [save_eq Slip.host Slip.sends_number.entries]
  rfl

end Workflows

end Service

end ChatFlow
