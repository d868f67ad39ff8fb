import ChatFlow.Proofs.Template.Forgetting
import ChatFlow.Proofs.Web.Quoting

/-!
# Replies and earlier responses

The variables of a walk keep the document of the last response that was one. A later call whose
response is no document leaves it where it is, and the paths of its reply are looked up in it.

* `Act.Ignores` — an act that runs the same whether there is such a document or not, `Unread` — in every
  world whose other variables have no braces;
* `outward_unread` — **what nodes do without the variables does not see it**;
* `WebCall.Settled` — a reply that has no paths left;
* `WebCall.run_forget` — a node whose response is no document, and whose reply is settled, does not see
  it;
* `WebCall.replies_own` — **so two walks that differ in it only are answered alike**;
* `WebCall.reply_stale` — a path that is left is looked up in the response of an earlier node.
-/

namespace ChatFlow

open Template

/-! ## Acts that do not see the document -/

/-- **An act does not see the document of an earlier response**, and the variables are as clear behind it
as before. -/
def Act.Ignores {α : Type} (act : Act World α) (w : World) : Prop :=
  act.Blind (World.forget "api_json") w ∧ Clear "api_json" (act w).2

namespace Act.Ignores

variable {α β : Type} {w : World}

theorem bind {act : Act World α} {next : α → Act World β} (h : act.Ignores w)
    (hnext : ∀ a t, act w = (.done a, t) → Clear "api_json" t → (next a).Ignores t) :
    (act >>= next).Ignores w := by
  obtain ⟨hblind, hclear⟩ := h
  refine ⟨hblind.bind fun a t ht => (hnext a t ht ?_).1, ?_⟩
  · rw [ht] at hclear
    exact hclear
  · rw [Act.run_bind]
    rcases ht : act w with ⟨a | f | _, t⟩ <;> rw [ht] at hclear
    · exact (hnext a t ht hclear).2
    · exact hclear
    · exact hclear

theorem attempt {act : Act World α} (h : act.Ignores w) : act.attempt.Ignores w :=
  ⟨h.1.attempt, by rw [Act.attempt_snd]; exact h.2⟩

end Act.Ignores

/-- **An act that does not see the document of an earlier response**, where the other variables have no
braces. -/
def Unread (α : Type) (act : Act World α) : Prop := ∀ w, Clear "api_json" w → act.Ignores w

/-- **What is done without the variables does not see the document.** -/
theorem outward_unread : Outward Unread where
  pure a _ hw := ⟨.pure a, hw⟩
  fail f _ hw := ⟨.fail f, hw⟩
  bind h hnext w hw := (h w hw).bind fun a t _ ht => hnext a t ht
  attempt h w hw := (h w hw).attempt
  notes _ _ hw := ⟨rfl, hw.of_same rfl⟩
  opened _ _ hw := ⟨rfl, hw.of_same rfl⟩
  client _ hw := ⟨rfl, hw⟩
  send _ _ hw := ⟨rfl, hw.of_same rfl⟩

theorem unread_call (platform : Platform) (c : Call) : Unread _ (World.call platform c) := by
  intro w hw
  refine ⟨?_, hw.of_same (by rw [World.call_snd])⟩
  have hcalls : (w.forget "api_json").calls = w.calls := rfl
  unfold Act.Blind World.call
  rw [hcalls]
  rcases platform.respond w.calls c with _ | _ | _ <;> rfl

/-- Another variable is written all the same, if its text has no braces. -/
theorem unread_assign {key : String} (hkey : key ≠ "api_json") (hgroups : key ≠ "regex_groups")
    {v : Value}
    (hv : reservedNames.contains key = false → ∀ s, v.toText = .ok s → Braceless s.toList) :
    Unread _ (World.assign key v) := by
  refine fun w hw => ⟨?_, hw.assign hkey hgroups hv⟩
  have hinsert := Table.without_insert hkey w.context v
  unfold Act.Blind World.assign Act.change World.forget
  rw [hinsert]

section

variable {scene : Scene} (ho : Occasion.Plain scene.occasion)

include ho

theorem unread_render {template : String} (h : Avoids "api_json" template.toList) :
    Unread _ (scene.render template) := by
  intro w hw
  obtain ⟨dice, hdice⟩ := render_snd scene.occasion template w
  exact ⟨render_forget (by decide) ho hw h, hw.of_same (by rw [Scene.render, hdice])⟩

end

theorem unread_tell (scene : Scene) (r : ChatRequest) : Unread _ (scene.tell r) :=
  outward_unread.bind (outward_unread.ask (unread_call _) r) fun _ => outward_unread.pure _

namespace WebCall

variable {scene : Scene} {p : ActionParams}

/-! ## A node up to its reply -/

/-- **The templates of a node that calls the web.** -/
def templates (p : ActionParams) : List String :=
  p.value :: p.apiReply :: p.imageText :: requestTemplates p

/-- The text that is kept of a response that is no document. -/
def keptText (p : ActionParams) (url : String) (r : Web.Response) : String :=
  if p.responseType = "binary" then url else r.text

theorem unread_close (scene : Scene) (ending : Except Fault Unit) :
    Unread _ (close scene ending) := by
  have h := outward_unread
  cases ending with
  | ok _ => exact h.pure ()
  | error f => exact h.bind (h.note _) fun _ => h.bind (h.of _) fun _ => unread_tell _ _

/-- **A response that is no document** is kept without a look at an earlier one. -/
theorem unread_keep {url : String} {r : Web.Response}
    (hnone : p.responseType = "json" → document? r = none)
    (hkept : Braceless (keptText p url r).toList) : Unread _ (keep p url r) := by
  have h := outward_unread
  have hresponse : ∀ s, s = keptText p url r → Unread _ (World.assign "api_response" (.text s)) := by
    rintro s rfl
    refine unread_assign (by decide) (by decide) fun _ t ht => ?_
    obtain rfl := Except.ok.inj ht
    exact hkept
  refine h.bind (unread_assign (by decide) (by decide) fun _ s hs => ?_) fun _ => ?_
  · have htext : intText r.status = s := by
      unfold Value.int at hs
      rw [Value.toText, Value.numberText, Number.intText?] at hs
      split at hs
      · exact Except.ok.inj hs
      · cases hs
    exact htext ▸ braceless_intText _
  · split
    · next hkind =>
      rw [keepDocument, hnone hkind]
      exact hresponse _ (by rw [keptText, if_neg (by rw [hkind]; decide)])
    · next hkind =>
      exact h.bind (unread_assign (by decide) (by decide) fun hname => absurd hname (by decide))
        fun _ => hresponse _ (by rw [keptText, if_pos hkind])
    · next hkind =>
      exact hresponse _ (by rw [keptText, if_neg hkind])

/-! ## The reply -/

/-- **A reply that has no paths left**, but for names that are never looked up. -/
def Settled (s : List Char) : Prop :=
  ∀ name, .hole name ∈ pieces ['\x7b'] s →
    passedNames.contains (String.ofList name) = true ∨ name.head? = some '$'

theorem settled_of_nameless {s : List Char} (h : Nameless s) : Settled s := by
  intro name hname
  rw [h.pieces_eq rfl (by decide)] at hname
  simp at hname

/-- What a node is going to reply, before paths are looked up. -/
def draft (scene : Scene) (p : ActionParams) : Act World String := do
  let (url, r) ← fetch scene p
  keep p url r
  scene.render p.apiReply

/-- **A settled reply is left as it is**, whatever response its paths would be looked up in. -/
theorem renderJson_of_settled {o : Occasion} {template : String} {w : World}
    (hsettled : ∀ text, (render o template w).1 = .done text → Settled text.toList)
    (hpaths : ∃ b, hasPaths (w.valueOf "api_json") = .ok b) :
    renderJson o template w = render o template w := by
  obtain ⟨dice, hdice⟩ := render_snd o template w
  rcases hrender : render o template w with ⟨text | f | _, u⟩ <;> rw [hrender] at hsettled hdice
  · have hvalue : u.valueOf "api_json" = w.valueOf "api_json" := by
      obtain rfl : u = { w with dice } := hdice
      rfl
    have hjoin : join (pathText (w.valueOf "api_json")) (pieces ['\x7b'] text.toList) =
        .ok text.toList := by
      refine join_pieces fun name hname => if_pos ?_
      simpa using hsettled text rfl name hname
    obtain ⟨b, hb⟩ := hpaths
    rw [← hvalue] at hb hjoin
    rw [run_renderJson hrender hb hjoin, String.ofList_toList, ite_self]
  · exact Act.run_bind_failed hrender
  · exact Act.run_bind_hung hrender

theorem exists_hasPaths {w : World} (h : Clear "api_json" w) :
    ∃ b, hasPaths (w.valueOf "api_json") = .ok b := by
  rw [World.valueOf]
  rcases hget : w.context.get? "api_json" with _ | v
  · exact ⟨false, rfl⟩
  · exact (h.named _ (Table.mem_of_get? hget) rfl).2

section

variable (ho : Occasion.Plain scene.occasion)
  (havoids : ∀ template ∈ templates p, Avoids "api_json" template.toList)

include ho havoids

theorem unread_prepare : Unread _ (prepare scene p) := by
  have h := outward_unread
  refine h.bind (unread_render ho (havoids _ List.mem_cons_self)) fun _ => h.requestOf ?_
  exact fun template htemplate => unread_render ho (havoids _ (by simp [templates, htemplate]))

theorem unread_fetch : Unread _ (fetch scene p) := by
  have h := outward_unread
  exact h.bind (unread_prepare ho havoids) fun _ => h.bind (h.request _ _) fun _ => h.pure _

theorem unread_captionOf : Unread _ (captionOf scene p) := by
  refine Outward.ite (unread_render ho (havoids _ ?_)) (outward_unread.pure _)
  simp [templates]

/-- The text of a reply is the same where the reply is settled. -/
theorem ignores_replyText {w : World} (hw : Clear "api_json" w)
    (hsettled : ∀ text, (scene.render p.apiReply w).1 = .done text → Settled text.toList) :
    (replyText scene p).Ignores w := by
  unfold replyText
  split
  · obtain ⟨hblind, hclear⟩ := unread_render ho (havoids p.apiReply (by simp [templates])) w hw
    have hforgotten : hasPaths ((w.forget "api_json").valueOf "api_json") = .ok false := by
      rw [World.valueOf, World.forget, Table.get?_without_self]
      rfl
    have hfirst : renderJson scene.occasion p.apiReply w = scene.render p.apiReply w :=
      renderJson_of_settled hsettled (exists_hasPaths hw)
    have hsecond : renderJson scene.occasion p.apiReply (w.forget "api_json") =
        scene.render p.apiReply (w.forget "api_json") :=
      renderJson_of_settled (fun text htext => hsettled text (hblind.fst.symm.trans htext))
        ⟨_, hforgotten⟩
    exact ⟨by rw [Act.Blind, hfirst, hsecond, hblind], by rw [hfirst]; exact hclear⟩
  · have hvalue : (w.forget "api_json").valueOf "api_response" = w.valueOf "api_response" := by
      rw [World.valueOf, World.forget, Table.get?_without_of_ne (by decide), World.valueOf]
    have hlook : (Act.look : Act World World) w = (.done w, w) := rfl
    refine ⟨.look (by rw [hvalue]) (.of _), ?_⟩
    rw [Act.run_bind_done hlook, Act.of_snd]
    exact hw

/-- The request to the chat is the same where the reply is settled. -/
theorem ignores_replyOf {w : World} (hw : Clear "api_json" w)
    (hsettled : ∀ text, (scene.render p.apiReply w).1 = .done text → Settled text.toList) :
    (replyOf scene p).Ignores w := by
  refine (ignores_replyText ho havoids hw hsettled).bind fun text t _ ht => ?_
  have hpayload : payload p (t.forget "api_json") text = payload p t text := by
    unfold payload
    rw [World.valueOf, World.forget, Table.get?_without_of_ne (by decide), World.valueOf]
  have h := outward_unread
  have hnext := h.bind (unread_captionOf ho havoids) fun caption =>
    h.pure (chosen p.replyType (payload p t text) (Scene.nonblank caption) text)
  have hlook : (Act.look : Act World World) t = (.done t, t) := rfl
  refine ⟨.look (by rw [hpayload]) (hnext t ht).1, ?_⟩
  rw [Act.run_bind_done hlook]
  exact (hnext t ht).2

/-! ## The whole node -/

variable {w : World} (hw : Clear "api_json" w) {url : String} {r : Web.Response}
  (hfetch : (fetch scene p w).1 = .done (url, r))
  (hnone : p.responseType = "json" → document? r = none)
  (hkept : Braceless (keptText p url r).toList)

include hw hfetch hnone hkept

theorem ignores_draft : (draft scene p).Ignores w := by
  refine (unread_fetch ho havoids w hw).bind fun answered v hv hclear => ?_
  obtain rfl : (url, r) = answered := by
    rw [hv] at hfetch
    exact (Outcome.done.inj hfetch).symm
  have hrender := unread_render ho (havoids p.apiReply (by simp [templates]))
  exact outward_unread.bind (unread_keep hnone hkept) (fun _ => hrender) v hclear

/-- **A node whose response is no document**, and whose reply is settled, does not see an earlier
response. -/
theorem run_forget {node : Node} (hnode : node.params = .action p)
    (hweb : p.actionType = "custom_api")
    (hdraft : ∀ text, (draft scene p w).1 = .done text → Settled text.toList) :
    (Node.run scene node).Blind (World.forget "api_json") w := by
  obtain ⟨hblind, hclear⟩ := unread_fetch ho havoids w hw
  unfold Act.Blind at hblind
  rcases hv : fetch scene p w with ⟨ending, v⟩
  rw [hv] at hfetch hclear hblind
  obtain rfl : ending = .done (url, r) := hfetch
  rw [Act.Blind, run_node_of_fetch hnode hweb hblind, run_node_of_fetch hnode hweb hv]
  have hkeep := unread_keep hnone hkept v hclear
  have hreply : (keep p url r >>= fun _ => replyOf scene p).Ignores v := by
    refine hkeep.bind fun _ t ht htclear => ?_
    refine ignores_replyOf ho havoids htclear fun text htext => hdraft text ?_
    have hnext : draft scene p w = scene.render p.apiReply t := by
      rw [draft, Act.run_bind_done hv]
      exact Act.run_bind_done ht
    rw [hnext, htext]
  have htold := (hreply.bind fun message t _ ht => unread_tell scene message t ht).attempt
  exact (htold.bind fun ending t _ ht => unread_close scene ending t ht).1

end

/-- **A reply is made of the response of its own call.** Two walks that differ in the document of an
earlier response only, whether they have one and which, are answered alike by a node whose own
response is no document: it ends the same way, with the same calls to the platform and the same
response kept. The templates of the node do not mention the earlier document, nothing that is filled
in has braces, and the reply has no paths left to look up. -/
theorem replies_own {node : Node} (hnode : node.params = .action p)
    (hweb : p.actionType = "custom_api") (ho : Occasion.Plain scene.occasion)
    (havoids : ∀ template ∈ templates p, Avoids "api_json" template.toList) {s t : World}
    (hsame : s.forget "api_json" = t.forget "api_json") (hs : Clear "api_json" s)
    (ht : Clear "api_json" t) {url : String} {r : Web.Response}
    (hfetch : (fetch scene p s).1 = .done (url, r))
    (hnone : p.responseType = "json" → document? r = none)
    (hkept : Braceless (keptText p url r).toList)
    (hdraft : ∀ text, (draft scene p s).1 = .done text → Settled text.toList) :
    (Node.run scene node s).1 = (Node.run scene node t).1 ∧
      (Node.run scene node s).2.calls = (Node.run scene node t).2.calls ∧
      (Node.run scene node s).2.valueOf "api_response" =
        (Node.run scene node t).2.valueOf "api_response" := by
  have hfetched := (unread_fetch ho havoids s hs).1.same (unread_fetch ho havoids t ht).1 hsame
  have hfetch' : (fetch scene p t).1 = .done (url, r) := hfetched.1 ▸ hfetch
  have hdrafted := (ignores_draft ho havoids hs hfetch hnone hkept).1.same
    (ignores_draft ho havoids ht hfetch' hnone hkept).1 hsame
  have hfirst := run_forget ho havoids hs hfetch hnone hkept hnode hweb hdraft
  have hsecond := run_forget ho havoids ht hfetch' hnone hkept hnode hweb fun text htext =>
    hdraft text (hdrafted.1.trans htext)
  obtain ⟨hending, hworld⟩ := hfirst.same hsecond hsame
  have hvalue : ∀ w : World, w.valueOf "api_response" =
      (w.forget "api_json").valueOf "api_response" := by
    intro w
    rw [World.valueOf, World.valueOf, World.forget, Table.get?_without_of_ne (by decide)]
  have hcalls : ∀ w : World, w.calls = (w.forget "api_json").calls := fun _ => rfl
  refine ⟨hending, ?_, ?_⟩
  · rw [hcalls, hworld, ← hcalls]
  · rw [hvalue, hworld, ← hvalue]

/-! ## A node that greets -/

namespace Inquiry

/-- The node greets somebody. -/
def greeting : ActionParams := { params with apiReply := "Hi \x7bname\x7d" }

/-- What an earlier node was answered. -/
def bob : Table Value := [("api_json", .object [("name", .text "Bob")])]

/-- The web does not work. -/
def down : List Web.Reply := [.response (page "down")]

theorem avoids_greeting :
    ∀ template ∈ templates greeting, Avoids "api_json" template.toList := by
  have hpieces : ∀ template ∈ templates greeting,
      (∀ q ∈ pieces ['\x7b'] template.toList, q.Plain) ∧
        .hole "api_json".toList ∉ pieces ['\x7b'] template.toList := by decide
  exact fun template h => avoids_of_pieces (by decide) (hpieces template h).1 (hpieces template h).2

theorem clear_named (script : List Web.Reply) :
    Clear "api_json" (world [("name", .text "Ann")] script) where
  captures captured h e he := by
    obtain rfl : [] = captured := Except.ok.inj h
    exact absurd he List.not_mem_nil
  context := by
    refine List.forall_mem_singleton.mpr fun _ _ s hs => ?_
    obtain rfl : "Ann" = s := Except.ok.inj hs
    decide
  named := List.forall_mem_singleton.mpr fun h => absurd h (by decide)

theorem clear_bob (script : List Web.Reply) :
    Clear "api_json" (world (bob ++ [("name", .text "Ann")]) script) where
  captures := (clear_named script).captures
  context := List.forall_mem_cons.mpr
    ⟨fun _ h => absurd rfl h, (clear_named script).context⟩
  named := List.forall_mem_cons.mpr
    ⟨fun _ => ⟨⟨"\x7b\"name\": \"Bob\"\x7d", rfl⟩, true, rfl⟩,
      (clear_named script).named⟩

end Inquiry

theorem replies_own_ann :
    let s := Inquiry.world (Inquiry.bob ++ [("name", .text "Ann")]) Inquiry.down
    let t := Inquiry.world [("name", .text "Ann")] Inquiry.down
    (Inquiry.node Inquiry.greeting).params = .action Inquiry.greeting ∧
      Inquiry.greeting.actionType = "custom_api" ∧ Occasion.Plain Inquiry.scene.occasion ∧
      (∀ template ∈ templates Inquiry.greeting, Avoids "api_json" template.toList) ∧
      s.forget "api_json" = t.forget "api_json" ∧ Clear "api_json" s ∧ Clear "api_json" t ∧
      (fetch Inquiry.scene Inquiry.greeting s).1 =
        .done ("http://api.test/10001", Inquiry.page "down") ∧
      document? (Inquiry.page "down") = none ∧
      Braceless (keptText Inquiry.greeting "http://api.test/10001" (Inquiry.page "down")).toList ∧
      (∀ text, (draft Inquiry.scene Inquiry.greeting s).1 = .done text → Settled text.toList) ∧
      (Node.run Inquiry.scene (Inquiry.node Inquiry.greeting) s).1 =
        (Node.run Inquiry.scene (Inquiry.node Inquiry.greeting) t).1 ∧
      (Node.run Inquiry.scene (Inquiry.node Inquiry.greeting) s).2.calls =
        (Node.run Inquiry.scene (Inquiry.node Inquiry.greeting) t).2.calls ∧
      (Node.run Inquiry.scene (Inquiry.node Inquiry.greeting) s).2.valueOf "api_response" =
        (Node.run Inquiry.scene (Inquiry.node Inquiry.greeting) t).2.valueOf "api_response" := by
  intro s t
  have hplain : Occasion.Plain Inquiry.scene.occasion :=
    ⟨by decide, by decide, by decide, by decide⟩
  have hfetch : (fetch Inquiry.scene Inquiry.greeting s).1 =
      .done ("http://api.test/10001", Inquiry.page "down") := by decide +kernel
  have hnone : document? (Inquiry.page "down") = none :=
    Option.isNone_iff_eq_none.mp (by decide +kernel)
  have hkept : Braceless (keptText Inquiry.greeting "http://api.test/10001"
      (Inquiry.page "down")).toList := by decide +kernel
  have hdraft : ∀ text, (draft Inquiry.scene Inquiry.greeting s).1 = .done text →
      Settled text.toList := by
    intro text htext
    have hann : (draft Inquiry.scene Inquiry.greeting s).1 = .done "Hi Ann" := by decide +kernel
    obtain rfl := Outcome.done.inj (hann.symm.trans htext)
    exact settled_of_nameless (by decide)
  exact ⟨rfl, rfl, hplain, Inquiry.avoids_greeting, rfl, Inquiry.clear_bob _, Inquiry.clear_named _,
    hfetch, hnone, hkept, hdraft, replies_own rfl rfl hplain Inquiry.avoids_greeting rfl
      (Inquiry.clear_bob _) (Inquiry.clear_named _) hfetch (fun _ => hnone) hkept hdraft⟩

/-- **A path that is left is looked up in the response of an earlier node**: the web does not work, and
Bob is greeted. -/
theorem reply_stale :
    (document? (Inquiry.page "down")).isNone ∧
      Inquiry.told (Node.run Inquiry.scene (Inquiry.node Inquiry.greeting)
        (Inquiry.world [] Inquiry.down)).2 = [["Hi \x7bname\x7d"]] ∧
      Inquiry.told (Node.run Inquiry.scene (Inquiry.node Inquiry.greeting)
        (Inquiry.world Inquiry.bob Inquiry.down)).2 = [["Hi Bob"]] := by
  decide +kernel

end WebCall

end ChatFlow
