import ChatFlow.Proofs.Web.Reporting

/-!
# Replies that quote a response

A reply may name the response of its own call. Once the text of the response stands in the reply, what
is left to do reads it like the template.

* `render_response` — at its turn the name of the response is replaced by the text;
* `requoted` — what becomes of this text afterwards: stored values and paths into the response are
  filled in wherever it names them, `requoted_of_nameless` — and a text that names nothing is left as
  it is;
* `WebCall.quotes_response` — **the reply is the response between what the template has before and
  behind it**, after stored values and paths were filled in;
* `WebCall.quote_lost` — a response that is an object is taken for a name, and nothing is left of it.
-/

namespace ChatFlow

namespace Template

/-! ## The response in a template -/

/-- The name of the response. -/
def responseName : List Char := "api_response".toList

theorem exists_of_contextEntries_append {first second : Table Value} {entries : List Entry}
    (h : contextEntries (first ++ second) = .ok entries) :
    ∃ a b, contextEntries first = .ok a ∧ contextEntries second = .ok b ∧ entries = a ++ b := by
  induction first generalizing entries with
  | nil => exact ⟨[], entries, rfl, h, rfl⟩
  | cons e rest ih =>
    obtain ⟨key, v⟩ := e
    rw [List.cons_append, contextEntries] at h
    split at h
    · next hreserved =>
      obtain ⟨a, b, ha, hb, rfl⟩ := ih h
      exact ⟨a, b, by rw [contextEntries, if_pos hreserved, ha], hb, rfl⟩
    · next hreserved =>
      obtain ⟨s, hs, h⟩ := exists_of_bind_ok h
      obtain ⟨others, hothers, h⟩ := exists_of_bind_ok h
      obtain rfl := Except.ok.inj h
      obtain ⟨a, b, ha, hb, rfl⟩ := ih hothers
      exact ⟨entry key s :: a, b, by rw [contextEntries, if_neg hreserved, hs, ha]; rfl, hb, rfl⟩

/-- No name but its own occurs in the name of the response. -/
theorem absent_of_ne {k : List Char} (h : k ≠ responseName) :
    occursIn (braced k) (braced responseName) = false :=
  occursIn_braced_of_ne (by decide) h

theorem absent_of_builtins {o : Occasion} {zone : Zone} {now : Moment} {known : List Entry}
    (h : builtins o zone now = .ok known) {e : Entry} (he : e ∈ known) :
    ∃ k, e.1 = braced k ∧ occursIn (braced k) (braced responseName) = false := by
  have hnames : ∀ name ∈ knownNames, name.toList ≠ responseName := by decide
  have hmem := keys_of_builtins h ▸ List.mem_map_of_mem he
  obtain ⟨name, hname, hkey⟩ := List.mem_map.mp hmem
  exact ⟨name.toList, hkey.symm, absent_of_ne (hnames name hname)⟩

theorem absent_of_captures {context : Table Value} {captured : List Entry}
    (h : captures context = .ok captured) {e : Entry} (he : e ∈ captured) :
    ∃ k, e.1 = braced k ∧ occursIn (braced k) (braced responseName) = false := by
  obtain ⟨digits, hkey⟩ := exists_of_mem_captures h he
  exact ⟨_, hkey, absent_of_ne fun h => absurd (List.cons.inj h).1 (by decide)⟩

theorem absent_of_contextEntries {context : Table Value} {named : List Entry}
    (h : contextEntries context = .ok named) (hresponse : "api_response" ∉ context.keys) {e : Entry}
    (he : e ∈ named) :
    ∃ k, e.1 = braced k ∧ occursIn (braced k) (braced responseName) = false := by
  obtain ⟨x, hx, -, s, -, rfl⟩ := exists_of_mem_contextEntries h he
  refine ⟨_, rfl, absent_of_ne fun h => hresponse ?_⟩
  rw [← String.toList_injective h]
  exact List.mem_map_of_mem hx

section

variable {o : Occasion} {w : World} {before after : List Char} (hbefore : Braceless before)
  (hafter : Braceless after) {template : String}
  (htemplate : template.toList = before ++ (braced responseName ++ after))

include hbefore hafter htemplate

theorem thrown_response (d : Dice) : thrown template.toList d = ([], d) := by
  have hnames : ∀ die ∈ diceNames, die.1.toList ≠ responseName := by decide
  refine thrown_of_absent (fun die hdie => ?_) d
  rw [htemplate, occursIn_between hbefore.1 hafter.2, absent_of_ne (hnames die hdie)]

variable (hw : Renderable o w) {earlier later : Table Value} {json : String}
  (hcontext : w.context = earlier ++ ("api_response", .text json) :: later)
  (hearlier : "api_response" ∉ earlier.keys)
  (hlater : ∀ key ∈ later.keys, occursIn (braced key.toList) json.toList = false)

include hw hcontext hearlier hlater

/-- **The name of the response is replaced by its text**, and of the passes that come later only
stored values are filled in there. -/
theorem render_response {stored : List Char}
    (hstored : fillStored w.store o.event.userId json.toList = .ok stored) :
    render o template w = (.done (String.ofList (before ++ (stored ++ after))), w) := by
  obtain ⟨known, hknown⟩ := exists_builtins o hw.clock hw.placed
  obtain ⟨captured, hcaptured⟩ := hw.captures
  obtain ⟨named, hnamed⟩ := exists_contextEntries hw.context
  have hsplit := hnamed
  rw [hcontext] at hsplit
  obtain ⟨a, rest, ha, hrest, rfl⟩ := exists_of_contextEntries_append hsplit
  obtain ⟨s, hs, hrest⟩ := exists_of_bind_ok hrest
  obtain ⟨b, hb, hrest⟩ := exists_of_bind_ok hrest
  obtain rfl := Except.ok.inj hs
  obtain rfl := Except.ok.inj hrest
  have hfill : fill (known ++ captured ++ (a ++ entry "api_response" json :: b)) template.toList =
      before ++ (json.toList ++ after) := by
    rw [htemplate, ← List.append_assoc]
    refine fill_between hbefore hafter (fun e he => ?_) fun e he => ?_
    · rcases List.mem_append.mp he with he | he
      · rcases List.mem_append.mp he with he | he
        · exact absent_of_builtins hknown he
        · exact absent_of_captures hcaptured he
      · exact absent_of_contextEntries ha hearlier he
    · obtain ⟨x, hx, -, s, -, rfl⟩ := exists_of_mem_contextEntries hb he
      exact ⟨_, rfl, hlater _ (List.mem_map_of_mem hx)⟩
  have hpasses : passes o w (known ++ faceEntries []) template.toList =
      .ok (before ++ (stored ++ after)) := by
    have hnone : known ++ faceEntries [] = known := List.append_nil known
    unfold passes
    rw [hcaptured, hnamed, hnone]
    simp only [bind, Except.bind]
    rw [hfill]
    exact join_between rfl hbefore.1 hafter.2 hstored
  have hbrace : template.toList.contains '\x7b' = true := by
    rw [htemplate]
    simp [braced]
  rw [run_render hbrace hknown, thrown_response hbefore hafter htemplate]
  simp only [hpasses]
  rfl

end

/-! ## After its turn -/

/-- **What becomes of the text of a response in a reply**: stored values are filled in where it names
them, and then paths into the response. -/
def requoted (store : Store) (user : String) (body : Value) (s : List Char) :
    Except Fault (List Char) := do
  let stored ← fillStored store user s
  join (pathText body) (pieces ['\x7b'] stored)

/-- **A text that names nothing is left as it is.** -/
theorem requoted_of_nameless {s : List Char} (h : Nameless s) (store : Store) (user : String)
    (body : Value) : requoted store user body s = .ok s := by
  have hstored : fillStored store user s = .ok s := by
    rw [fillStored, h.pieces_eq rfl (by decide)]
    exact join_chars _ s
  rw [requoted, hstored]
  simp only [bind, Except.bind]
  rw [h.pieces_eq rfl (by decide)]
  exact join_chars _ s

end Template

namespace WebCall

open Template

variable {scene : Scene} {p : ActionParams} {w : World} {r : Web.Response} {v : Value}
  {json : String}

/-- The variables once a response is kept as a document. -/
def keptContext (context : Table Value) (status : Nat) (v : Value) (json : String) : Table Value :=
  ((context.insert "api_status" (.int status)).insert "api_json" v).insert "api_response"
    (.text json)

theorem get?_keptContext (context : Table Value) (status : Nat) (v : Value) (json : String) :
    (keptContext context status v json).get? "api_json" = some v ∧
      (keptContext context status v json).get? "api_response" = some (.text json) := by
  constructor
  · rw [keptContext, Table.get?_insert, if_neg (by decide), Table.get?_insert, if_pos rfl]
  · rw [keptContext, Table.get?_insert, if_pos rfl]

theorem keep_document (hjson : p.responseType = "json") (hdocument : document? r = some v)
    (hwrite : Json.write .compact v = .ok json) (url : String) (w : World) :
    keep p url r w =
      (.done (), { w with context := keptContext w.context r.status v json }) := by
  simp only [keep, hjson, keepDocument, hdocument, hwrite]
  rfl

theorem storable_of_document (h : document? r = some v) : Json.Storable Number.Writable v :=
  Json.storable_of_shown_readBytes h

/-- Where every template could be rendered, it still can be when a document is kept. -/
theorem renderable_kept {o : Occasion} (h : Renderable o w)
    (hstatus : r.status < Nat.pow 10 Number.digitLimit) (hv : Json.Storable Number.Writable v)
    (json : String) :
    Renderable o { w with context := keptContext w.context r.status v json } := by
  have htext : ∃ s, (Value.int r.status).toText = .ok s :=
    Json.exists_plainText (n := .int r.status) hstatus
  exact ((h.assign (by decide) fun _ => htext).assign (by decide) fun _ => hv.exists_toText).assign
    (by decide) fun _ => ⟨json, rfl⟩

/-- The reply is about what stands in it, not about a file of bytes. -/
theorem payload_json (hjson : p.responseType = "json") (w : World) (text : String) :
    payload p w text = .address text := by
  unfold payload
  rw [hjson]
  split
  · simp
  · rfl

/-- The response stands among the variables once, and behind it there are only variables of names that
were known before, or that are written with it. -/
theorem exists_keptContext {context : Table Value} (hkeys : context.keys.Nodup) (status : Nat)
    (v : Value) (json : String) : ∃ earlier later : Table Value,
      keptContext context status v json = earlier ++ ("api_response", .text json) :: later ∧
      "api_response" ∉ earlier.keys ∧
      ∀ key ∈ later.keys, key ≠ "api_response" ∧
        key ∈ "api_status" :: "api_json" :: context.keys := by
  obtain ⟨earlier, later, hinsert, hearlier, hlater⟩ := Table.exists_insert
    ((context.insert "api_status" (.int status)).insert "api_json" v) "api_response" (.text json)
  refine ⟨earlier, later, hinsert, hearlier, fun key hkey => ⟨?_, ?_⟩⟩
  · rintro rfl
    have hnodup := Table.keys_nodup_insert
      (Table.keys_nodup_insert (Table.keys_nodup_insert hkeys "api_status" (.int status))
        "api_json" v) "api_response" (.text json)
    rw [hinsert, Table.keys, List.map_append, List.map_cons, List.nodup_append,
      List.nodup_cons] at hnodup
    exact hnodup.2.1.1 hkey
  · obtain ⟨entry, hentry, rfl⟩ := List.mem_map.mp hkey
    rcases Table.mem_of_mem_insert (hlater entry hentry) with rfl | hentry
    · simp
    rcases Table.mem_of_mem_insert hentry with rfl | hentry
    · simp
    · exact List.mem_cons_of_mem _ (List.mem_cons_of_mem _ (List.mem_map_of_mem hentry))

/-- **The text of a reply that names the response** of its own call. -/
theorem replyText_kept {before after : List Char} (hbefore : Braceless before)
    (hafter : Braceless after)
    (hreply : p.apiReply.toList = before ++ (braced responseName ++ after))
    (hkeys : w.context.keys.Nodup) (hw : Renderable scene.occasion w)
    (hstatus : r.status < Nat.pow 10 Number.digitLimit) (hv : Json.Storable Number.Writable v)
    (hbody : (∃ fields, v = .object fields) ∨ ∃ items, v = .list items)
    (hshadow : ∀ key ∈ "api_status" :: "api_json" :: w.context.keys, key ≠ "api_response" →
      occursIn (braced key.toList) json.toList = false)
    {quoted : List Char}
    (hquoted : requoted w.store scene.occasion.event.userId v json.toList = .ok quoted) :
    let u : World := { w with context := keptContext w.context r.status v json }
    replyText scene p u = (.done (String.ofList (before ++ (quoted ++ after))), u) := by
  intro u
  have hu : Renderable scene.occasion u := renderable_kept hw hstatus hv json
  obtain ⟨earlier, later, hsplit, hearlier, hlater⟩ := exists_keptContext hkeys r.status v json
  have habsent : ∀ key ∈ later.keys, occursIn (braced key.toList) json.toList = false :=
    fun key hkey => hshadow key (hlater key hkey).2 (hlater key hkey).1
  obtain ⟨stored, hstored, hpaths⟩ := exists_of_bind_ok hquoted
  have hrender := render_response hbefore hafter hreply hu hsplit hearlier habsent hstored
  have hvalue : u.valueOf "api_json" = v := by
    have hget : u.context.get? "api_json" = some v := (get?_keptContext _ _ _ _).1
    rw [World.valueOf, hget]
    rfl
  have hhas : hasPaths (u.valueOf "api_json") = .ok true := by
    rw [hvalue]
    obtain ⟨fields, rfl⟩ | ⟨items, rfl⟩ := hbody
    · rfl
    · rfl
  have hjoin : join (pathText (u.valueOf "api_json"))
      (pieces ['\x7b'] (String.ofList (before ++ (stored ++ after))).toList) =
        .ok (before ++ (quoted ++ after)) := by
    rw [hvalue, String.toList_ofList]
    exact join_between rfl hbefore.1 hafter.2 hpaths
  have hblank : p.apiReply ≠ "" := by
    intro hblank
    rw [hblank] at hreply
    exact absurd hreply.symm (by simp [braced])
  rw [replyText, if_pos hblank]
  exact run_renderJson hrender hhas hjoin

/-- The request to the chat is made with the text of the reply, whatever its kind. -/
theorem replyOf_of_text (hjson : p.responseType = "json") (hw : Renderable scene.occasion w)
    {text : String} (htext : replyText scene p w = (.done text, w)) :
    ∃ caption dice, replyOf scene p w =
      (.done (chosen p.replyType (.address text) caption text), { w with dice }) := by
  obtain ⟨caption, dice, hcaption⟩ := settles_captionOf (p := p) hw
  have hlook : (Act.look : Act World World) w = (.done w, w) := rfl
  refine ⟨Scene.nonblank caption, dice, ?_⟩
  unfold replyOf
  rw [Act.run_bind_done htext, Act.run_bind_done hlook, Act.run_bind_done hcaption,
    payload_json hjson]
  rfl

/-- **A reply quotes the response of its own call.** A node that calls the web for a document, and whose
reply names the response between two parts without braces, keeps the written form of every object and
every list, and makes one request to the chat, of its kind of reply, whose text is this form between
the two parts. The form stands there as it is if it names nothing; what it names between braces is
filled in like anything else of the reply. Variables may have any name but one that occurs in it. -/
theorem quotes_response {node : Node} (hnode : node.params = .action p)
    (hweb : p.actionType = "custom_api") (hjson : p.responseType = "json")
    {before after : List Char} (hbefore : Braceless before) (hafter : Braceless after)
    (hreply : p.apiReply.toList = before ++ (braced responseName ++ after))
    (hfit : Reportable scene p w) (hkeys : w.context.keys.Nodup) {url : String}
    (hfetch : (fetch scene p w).1 = .done (url, r))
    (hstatus : r.status < Nat.pow 10 Number.digitLimit) (hdocument : document? r = some v)
    (hbody : (∃ fields, v = .object fields) ∨ ∃ items, v = .list items)
    (hwrite : Json.write .compact v = .ok json)
    (hshadow : ∀ key ∈ "api_status" :: "api_json" :: w.context.keys, key ≠ "api_response" →
      occursIn (braced key.toList) json.toList = false)
    {quoted : List Char}
    (hquoted : requoted w.store scene.occasion.event.userId v json.toList = .ok quoted) :
    (Nameless json.toList → quoted = json.toList) ∧
      ∃ caption call,
        let text := String.ofList (before ++ (quoted ++ after))
        scene.surface.callOf? (chosen p.replyType (.address text) caption text) = some call ∧
        (Node.run scene node w).2.calls = w.calls ++ [call] ∧
        (Node.run scene node w).2.valueOf "api_response" = .text json ∧
        ∀ f, (Node.run scene node w).1 ≠ .failed f := by
  refine ⟨fun hnameless => ?_, ?_⟩
  · rw [requoted_of_nameless hnameless] at hquoted
    exact (Except.ok.inj hquoted).symm
  have hv := storable_of_document hdocument
  -- the response is kept in a world that reads like the first one
  obtain ⟨u, hfetched, hcontext, hstore, hnow, hzone, hcalls⟩ :=
    exists_of_fetch (settles_prepare hfit.renderable hfit.agent hfit.timeout) hfetch
  have hrenderable : Renderable scene.occasion u :=
    hfit.renderable.of_same hcontext hstore hnow hzone
  rw [← hcontext] at hkeys hshadow
  rw [← hstore] at hquoted
  have htext := replyText_kept hbefore hafter hreply hkeys hrenderable hstatus hv
    hbody hshadow hquoted
  obtain ⟨caption, dice, hreplied⟩ :=
    replyOf_of_text hjson (renderable_kept hrenderable hstatus hv json) htext
  obtain ⟨call, hcall⟩ := exists_callOf scene.surface p.replyType
    (.address (String.ofList (before ++ (quoted ++ after)))) caption
    (String.ofList (before ++ (quoted ++ after)))
  have hdone : (keep p url r >>= fun _ => replyOf scene p) u = replyOf scene p _ :=
    Act.run_bind_done (keep_document hjson hdocument hwrite url u)
  obtain ⟨⟨log, htold⟩, hfails⟩ := told_of_done hfit.calm (hdone.trans hreplied) hcall
  rw [run_node_of_fetch hnode hweb hfetched]
  refine ⟨caption, call, hcall, ?_, ?_, hfails⟩
  · rw [htold, ← hcalls]
  · rw [htold, World.valueOf]
    have hget := (get?_keptContext u.context r.status v json).2
    rw [hget]
    rfl

/-! ## A node that quotes -/

namespace Inquiry

/-- A page of the web. -/
def page (body : String) : Web.Response := ⟨200, [], Utf8.encode body.toList⟩

/-- A page with the written form of an exact value is a document. -/
theorem document?_page {body : String} {v : Value} (hv : Json.Exact v)
    (hbody : Json.write .compact v = .ok body) : document? (page body) = some v := by
  have hread := Json.readBytes_encode Json.Layout.readable_compact hv hbody
  rw [document?, page, hread]
  rfl

/-- The node quotes what it was answered. -/
def quoting : ActionParams := { params with apiReply := "got \x7bapi_response\x7d." }

/-- The web answers with a list. -/
def listed : World := world [("count", .int 3)] [.response (page "[1,\x7b\x7d]")]

/-- The list. -/
def list : Value := .list [.int 1, .object []]

theorem write_list : Json.write .compact list = .ok "[1,\x7b\x7d]" := by decide +kernel

end Inquiry

theorem quotes_response_list :
    (Inquiry.node Inquiry.quoting).params = .action Inquiry.quoting ∧
      Inquiry.quoting.actionType = "custom_api" ∧ Inquiry.quoting.responseType = "json" ∧
      Braceless "got ".toList ∧ Braceless ".".toList ∧
      Inquiry.quoting.apiReply.toList = "got ".toList ++ (braced responseName ++ ".".toList) ∧
      Reportable Inquiry.scene Inquiry.quoting Inquiry.listed ∧
      Inquiry.listed.context.keys.Nodup ∧
      (fetch Inquiry.scene Inquiry.quoting Inquiry.listed).1 =
        .done ("http://api.test/10001", Inquiry.page "[1,\x7b\x7d]") ∧
      (Inquiry.page "[1,\x7b\x7d]").status < Nat.pow 10 Number.digitLimit ∧
      document? (Inquiry.page "[1,\x7b\x7d]") = some Inquiry.list ∧
      Json.write .compact Inquiry.list = .ok "[1,\x7b\x7d]" ∧
      (∀ key ∈ "api_status" :: "api_json" :: Inquiry.listed.context.keys, key ≠ "api_response" →
        occursIn (braced key.toList) "[1,\x7b\x7d]".toList = false) ∧
      requoted Inquiry.listed.store Inquiry.scene.occasion.event.userId Inquiry.list
        "[1,\x7b\x7d]".toList = .ok "[1,\x7b\x7d]".toList ∧
      ∃ caption call,
        let text := String.ofList ("got ".toList ++ ("[1,\x7b\x7d]".toList ++ ".".toList))
        Inquiry.scene.surface.callOf? (chosen "text" (.address text) caption text) = some call ∧
        (Node.run Inquiry.scene (Inquiry.node Inquiry.quoting) Inquiry.listed).2.calls = [call] ∧
        (Node.run Inquiry.scene (Inquiry.node Inquiry.quoting) Inquiry.listed).2.valueOf
          "api_response" = .text "[1,\x7b\x7d]" ∧
        ∀ f, (Node.run Inquiry.scene (Inquiry.node Inquiry.quoting) Inquiry.listed).1 ≠
          .failed f := by
  have hreply : Inquiry.quoting.apiReply.toList =
      "got ".toList ++ (braced responseName ++ ".".toList) := by decide
  have hfit : Reportable Inquiry.scene Inquiry.quoting Inquiry.listed :=
    Inquiry.reportable rfl rfl (Inquiry.text_of_int (by decide)) _
  have hkeys : Inquiry.listed.context.keys.Nodup := by decide
  have hfetch : (fetch Inquiry.scene Inquiry.quoting Inquiry.listed).1 =
      .done ("http://api.test/10001", Inquiry.page "[1,\x7b\x7d]") := by decide +kernel
  have hstatus : (Inquiry.page "[1,\x7b\x7d]").status < Nat.pow 10 Number.digitLimit :=
    Number.writable_int (n := 200) (by decide)
  have hexact : Json.Exact Inquiry.list := ⟨trivial, ⟨List.nodup_nil, trivial⟩, trivial⟩
  have hdocument := Inquiry.document?_page hexact Inquiry.write_list
  have hshadow : ∀ key ∈ "api_status" :: "api_json" :: Inquiry.listed.context.keys,
      key ≠ "api_response" →
        occursIn (braced key.toList) "[1,\x7b\x7d]".toList = false := by decide
  have hquoted := requoted_of_nameless (by decide : Nameless "[1,\x7b\x7d]".toList)
    Inquiry.listed.store Inquiry.scene.occasion.event.userId Inquiry.list
  exact ⟨rfl, rfl, rfl, by decide, by decide, hreply, hfit, hkeys, hfetch, hstatus, hdocument,
    Inquiry.write_list, hshadow, hquoted,
    (quotes_response rfl rfl rfl (by decide) (by decide) hreply hfit hkeys hfetch hstatus hdocument
      (.inr ⟨_, rfl⟩) Inquiry.write_list hshadow hquoted).2⟩

/-- **Nothing is left of a response that is an object**: it stands between braces, and is taken for the
name of something in it that there is not. -/
theorem quote_lost :
    let after := (Node.run Inquiry.scene (Inquiry.node Inquiry.quoting)
      (Inquiry.world [] [.response (Inquiry.page "\x7b\"a\":1\x7d")])).2
    (after.valueOf "api_response").textOrBlank = "\x7b\"a\":1\x7d" ∧
      Inquiry.told after = [["got ."]] ∧
      Inquiry.told after ≠ [["got " ++ (after.valueOf "api_response").textOrBlank ++ "."]] := by
  decide +kernel

end WebCall

end ChatFlow
