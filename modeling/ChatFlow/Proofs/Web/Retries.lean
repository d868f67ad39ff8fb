import ChatFlow.Proofs.Walk.Entry
import ChatFlow.Web.Caller

/-!
# Attempts of a web request

How often a request is sent, and what comes of it, by what the network answers to it.

* `Network.reply` — the answers that are still to come, `Request.outcome` — what an attempt comes to
  with one of them, if it is sent nowhere else. What the client refuses is left to the client;
* `attempts_succ` — **one attempt** takes one answer and is put down with its request; a failure of
  the connection leads to the next one;
* `attempts_direct` — by induction on the attempts that are left, there are as many as there are
  failures of the connection at first, and one more;
* `request_retries` — **a request is sent once, and again after each failure of the connection** as
  often as settings say; what the last attempt comes to is what the request comes to.
-/

namespace ChatFlow.Web

/-! ## Answers -/

namespace Network

/-- The network after so many answers. -/
def after (n : Network) (count : Nat) : Network := { n with given := n.given + count }

/-- **The answer that comes after so many others.** -/
def reply (n : Network) (i : Nat) : Reply := (n.after i).peek

theorem after_after (n : Network) (i j : Nat) : (n.after i).after j = n.after (i + j) := by
  simp [after, Nat.add_assoc]

theorem reply_after (n : Network) (i j : Nat) : (n.after i).reply j = n.reply (i + j) := by
  rw [reply, after_after, reply]

end Network

namespace Reply

/-- Whether an answer is a failure of the connection. -/
def isTransport : Reply → Bool
  | .failure cause _ => cause.isTransport
  | .response _ => false

/-- Whether an answer sends the request elsewhere. -/
def isRedirect : Reply → Bool
  | .failure _ _ => false
  | .response r => r.redirected?.isSome

end Reply

/-- **What an attempt comes to** with an answer that sends it nowhere else: a response of any status
is its result, if the client takes it from the address, and a failure is its fault. -/
def Request.outcome (r : Request) (client : Client) : Reply → Except Fault Response
  | .response x => if client.takes r.url then .ok x else .error (schemeless r.url)
  | .failure cause message => .error (.web cause message)

/-- An attempt comes to a response only where the network gives it. -/
theorem reply_of_outcome {r : Request} {client : Client} {reply : Reply} {x : Response}
    (h : r.outcome client reply = .ok x) : reply = .response x := by
  cases reply with
  | failure cause message => cases h
  | response y =>
    rw [Request.outcome] at h
    split at h
    · rw [Except.ok.inj h]
    · cases h

/-- A failure of the connection is worth another attempt, nothing else is. -/
theorem worthRetry_of_outcome {r : Request} {client : Client} {reply : Reply} {f : Fault}
    (h : r.outcome client reply = .error f) : worthRetry f = reply.isTransport := by
  cases reply with
  | failure cause message =>
    cases h
    rfl
  | response x =>
    rw [Request.outcome] at h
    split at h
    · cases h
    · cases h
      rfl

/-! ## One attempt -/

/-- An attempt is the request as the caller made it, with the time of settings where it has none. -/
theorem Request.attempt_eq (r : Request) (settings : WebSettings) :
    r.attempt settings =
      { method := r.method
        url := r.url
        headers := r.headers
        timeout := (r.timeout.filter fun t => !t.isZero).getD settings.timeout
        body := r.content.getD "" } := by
  rw [Request.attempt]
  rcases r.timeout with _ | t
  · rfl
  · by_cases h : t.isZero <;> simp [Option.filter, h]

section

variable {settings : WebSettings} {r : Request} {w : World} {before : List Exchange}
  {sent : List Attempt}

theorem run_client (w : World) : client w = (.done w.network.client, w) := rfl

/-- An attempt is put down with the latest request, and takes one answer. -/
theorem send_eq (h : w.exchanges = before ++ [⟨r, sent⟩]) (attempt : Attempt) :
    send attempt w = (.done (w.network.reply 0),
      { w with
        network := w.network.after 1
        exchanges := before ++ [⟨r, sent ++ [attempt]⟩] }) := by
  simp [send, Act.step, Network.answer, Network.reply, Network.after, h]

/-- What an attempt receives is what it comes to with the next answer. -/
theorem receive_eq (h : w.exchanges = before ++ [⟨r, sent⟩]) :
    receive (r.attempt settings) w = Act.of (r.outcome w.network.client (w.network.reply 0))
      { w with
        network := w.network.after 1
        exchanges := before ++ [⟨r, sent ++ [r.attempt settings]⟩] } := by
  have hurl : (r.attempt settings).url = r.url := rfl
  rw [receive, Act.run_bind_done (send_eq h _), hurl]
  cases w.network.reply 0 with
  | failure cause message => rfl
  | response x =>
    have hclient : (w.network.after 1).client = w.network.client := rfl
    dsimp only
    rw [Act.run_bind_done (run_client _)]
    simp only [hclient, Request.outcome]
    split <;> rfl

/-- **An attempt that is sent nowhere else** takes one answer, and comes to what that answer says. -/
theorem follow_direct (h : w.exchanges = before ++ [⟨r, sent⟩])
    (hdirect : (w.network.reply 0).isRedirect = false) :
    (follow redirectLimit (r.attempt settings)).attempt w =
      (.done (r.outcome w.network.client (w.network.reply 0)),
        { w with
          network := w.network.after 1
          exchanges := before ++ [⟨r, sent ++ [r.attempt settings]⟩] }) := by
  have hreceive : receive (r.attempt settings) w = _ := receive_eq h
  rw [Act.attempt, follow]
  cases houtcome : r.outcome w.network.client (w.network.reply 0) with
  | error f =>
    rw [houtcome, Act.run_of_error rfl] at hreceive
    rw [Act.run_bind_failed hreceive]
  | ok x =>
    have hstays : x.redirected? = none := by
      rw [reply_of_outcome houtcome] at hdirect
      simpa [Reply.isRedirect] using hdirect
    rw [houtcome, Act.run_of_ok rfl] at hreceive
    rw [Act.run_bind_done hreceive]
    simp [hstays, Act.run_pure]

end

/-! ## All attempts -/

/-- The notes about the attempts from one on: each but the first is told of. -/
def retryNotes (first count : Nat) : List Note :=
  ((List.range' first count).filter fun n => 1 < n).map .webRetry

theorem retryNotes_succ (first count : Nat) :
    retryNotes first (count + 1) = retryNotes first 1 ++ retryNotes (first + 1) count := by
  rw [retryNotes, List.range'_succ, List.filter_cons]
  by_cases h : 1 < first <;> simp [retryNotes, h]

theorem retryNotes_one (count : Nat) :
    retryNotes 1 (count + 1) = (List.range' 2 count).map .webRetry := by
  have hall : (List.range' 2 count).filter (fun n => 1 < n) = List.range' 2 count := by
    refine List.filter_eq_self.mpr fun n hn => ?_
    obtain ⟨i, -, rfl⟩ := List.mem_range'.mp hn
    simp
    omega
  rw [retryNotes, List.range'_succ, List.filter_cons_of_neg (by decide), hall]

/-- **The world after attempts** that were sent nowhere else, the first of them numbered. -/
def tried (settings : WebSettings) (r : Request) (before : List Exchange) (sent : List Attempt)
    (first count : Nat) (w : World) : World :=
  { w with
    network := w.network.after count
    exchanges := before ++ [⟨r, sent ++ List.replicate count (r.attempt settings)⟩]
    log := w.log ++ retryNotes first count }

section

variable {settings : WebSettings} {r : Request} {w : World} {before : List Exchange}
  {sent : List Attempt}

theorem tried_network (first count : Nat) :
    (tried settings r before sent first count w).network = w.network.after count := rfl

theorem tried_exchanges (first : Nat) :
    (tried settings r before sent first 1 w).exchanges =
      before ++ [⟨r, sent ++ [r.attempt settings]⟩] := rfl

/-- One attempt, and then the others. -/
theorem tried_tried (first count : Nat) :
    tried settings r before (sent ++ [r.attempt settings]) (first + 1) count
        (tried settings r before sent first 1 w) =
      tried settings r before sent first (count + 1) w := by
  simp [tried, Network.after_after, retryNotes_succ first count, List.replicate_succ,
    Nat.add_comm 1 count]

/-- What follows an attempt: others again after a failure of the connection, if any are left. -/
theorem follows_attempt {x : Act World (Except Fault Response)}
    {next : Except Fault Response → Act World Response} {again : Act World Response} {left : Nat}
    {c : Client} {reply : Reply} {told u : World} (hx : x told = (.done (r.outcome c reply), u))
    (hok : ∀ response, next (.ok response) = pure response)
    (herror : ∀ f, next (.error f) = if worthRetry f && 0 < left then again else Act.fail f) :
    (x >>= next) told =
      if reply.isTransport = true ∧ 0 < left then again u else Act.of (r.outcome c reply) u := by
  rw [Act.run_bind_done hx]
  cases houtcome : r.outcome c reply with
  | ok response =>
    rw [hok, reply_of_outcome houtcome, if_neg (by simp [Reply.isTransport])]
    rfl
  | error f =>
    rw [herror, worthRetry_of_outcome houtcome]
    by_cases hleft : reply.isTransport = true ∧ 0 < left
    · rw [if_pos hleft, if_pos (by simpa using hleft)]
    · rw [if_neg hleft, if_neg (by simpa using hleft)]
      rfl

/-- **One attempt of several**: a failure of the connection is followed by the others, if any are
left; with anything else it ends. -/
theorem attempts_succ (hsent : w.network.client.refusal? r = none)
    (h : w.exchanges = before ++ [⟨r, sent⟩]) (hdirect : (w.network.reply 0).isRedirect = false) (first left : Nat) :
    attempts settings r first (left + 1) w =
      if (w.network.reply 0).isTransport = true ∧ 0 < left then
        attempts settings r (first + 1) left (tried settings r before sent first 1 w)
      else
        Act.of (r.outcome w.network.client (w.network.reply 0))
          (tried settings r before sent first 1 w) := by
  -- the attempt is the same whether or not it is told of
  have hfollow (told : World) (htold : told = { w with log := w.log ++ retryNotes first 1 }) :
      (follow redirectLimit (r.attempt settings)).attempt told =
        (.done (r.outcome w.network.client (w.network.reply 0)),
          tried settings r before sent first 1 w) := by
    rw [htold]
    exact follow_direct h hdirect
  rw [attempts]
  by_cases hfirst : 1 < first
  · have hnote : World.note (.webRetry first) w =
        (.done (), { w with log := w.log ++ [.webRetry first] }) := rfl
    rw [if_pos hfirst, Act.run_bind_done hnote]
    dsimp only
    rw [Act.run_bind_done (run_client _)]
    simp only [hsent]
    exact follows_attempt (hfollow _ (by simp [retryNotes, hfirst])) (fun _ => rfl) fun _ => rfl
  · rw [if_neg hfirst]
    dsimp only
    rw [Act.run_bind_done (run_client _)]
    simp only [hsent]
    exact follows_attempt (hfollow _ (by simp [retryNotes, hfirst])) (fun _ => rfl) fun _ => rfl

/-- **As many attempts as it takes**, and as many as there are: the answers taken are the failures of
the connection at first, and the one behind them. -/
theorem attempts_direct (hsent : w.network.client.refusal? r = none) {left first k : Nat}
    (h : w.exchanges = before ++ [⟨r, sent⟩])
    (hdirect : ∀ i, (w.network.reply i).isRedirect = false)
    (hlead : ∀ i < k, (w.network.reply i).isTransport = true)
    (hthen : k ≤ left → (w.network.reply k).isTransport = false) :
    attempts settings r first (left + 1) w =
      Act.of (r.outcome w.network.client (w.network.reply (min k left)))
        (tried settings r before sent first (min k left + 1) w) := by
  induction left generalizing first k w sent with
  | zero =>
    rw [attempts_succ hsent h (hdirect 0), if_neg (by simp), Nat.min_zero]
  | succ left ih =>
    cases k with
    | zero =>
      have hends := hthen (Nat.zero_le _)
      rw [attempts_succ hsent h (hdirect 0), if_neg (by simp [hends]), Nat.zero_min]
    | succ k =>
      rw [attempts_succ hsent h (hdirect 0), if_pos ⟨hlead 0 (by omega), by omega⟩,
        Nat.add_min_add_right, ← tried_tried first (min k left + 1)]
      have hreply (i : Nat) : (tried settings r before sent first 1 w).network.reply i =
          w.network.reply (i + 1) := by
        rw [tried_network, Network.reply_after, Nat.add_comm]
      rw [← hreply]
      have hsame : (tried settings r before sent first 1 w).network.client.refusal? r = none := hsent
      refine ih hsame (tried_exchanges first) (fun i => ?_) (fun i hi => ?_) (fun hk => ?_)
      · rw [hreply]
        exact hdirect _
      · rw [hreply]
        exact hlead _ (by omega)
      · rw [hreply]
        exact hthen (by omega)

/-- A request that is refused is not sent. -/
theorem attempts_refused {f : Fault} (hrefused : w.network.client.refusal? r = some f) (left : Nat) :
    attempts settings r 1 (left + 1) w = (.failed f, w) := by
  rw [attempts, if_neg (by decide)]
  dsimp only
  rw [Act.run_bind_done (run_client _)]
  simp only [hrefused]
  rfl

end

/-- **A request is sent once, and again after each failure of the connection** up to the number of
retries, every time alike. Where no more failures come first than may be retried, it comes to what the
answer behind them says; otherwise to the last failure. A request that is refused is never sent. -/
theorem request_retries (settings : WebSettings) (r : Request) (w : World) {k : Nat}
    (hdirect : ∀ i, (w.network.reply i).isRedirect = false)
    (hlead : ∀ i < k, (w.network.reply i).isTransport = true)
    (hthen : k ≤ settings.retries.toNat → (w.network.reply k).isTransport = false) :
    request settings r w = match w.network.client.refusal? r with
      | some f => (.failed f, { w with exchanges := w.exchanges ++ [⟨r, []⟩] })
      | none =>
        let again := min k settings.retries.toNat
        let sent : Attempt :=
          { method := r.method
            url := r.url
            headers := r.headers
            timeout := (r.timeout.filter fun t => !t.isZero).getD settings.timeout
            body := r.content.getD "" }
        (match w.network.reply again with
          | .response x =>
            if w.network.client.takes r.url then .done x else .failed (schemeless r.url)
          | .failure cause message => .failed (.web cause message),
          { w with
            network := w.network.after (again + 1)
            exchanges := w.exchanges ++ [⟨r, List.replicate (again + 1) sent⟩]
            log := w.log ++ (List.range' 2 again).map .webRetry }) := by
  let begun : World := { w with exchanges := w.exchanges ++ [⟨r, []⟩] }
  have hbegun : begun.exchanges = w.exchanges ++ [⟨r, []⟩] := rfl
  have hstart : request settings r w = attempts settings r 1 (settings.retries.toNat + 1) begun := rfl
  rw [hstart]
  cases hrefusal : w.network.client.refusal? r with
  | some f => exact attempts_refused (w := begun) hrefusal _
  | none =>
    rw [attempts_direct (w := begun) hrefusal hbegun hdirect hlead hthen, tried, retryNotes_one,
      r.attempt_eq]
    simp only [begun, List.nil_append]
    cases w.network.reply (min k settings.retries.toNat) with
    | failure cause message => rfl
    | response x =>
      rw [Request.outcome]
      split <;> rfl

/-! ## A request that is answered at last -/

namespace Faltering

/-- The network fails twice, then the service is not available. -/
def script : List Reply :=
  [.failure .connectError "refused", .failure .readTimeout "late", .response ⟨503, [], []⟩]

def world : World := { Loop.world with network := ⟨script, 0, .plain⟩ }

/-- A request with a time of zero. -/
def request : Request := ⟨"POST", "http://api.test/", none, some "hi", some (.int 0)⟩

def settings : WebSettings := { Settings.default.web with retries := 2 }

theorem direct : ∀ i, (world.network.reply i).isRedirect = false
  | 0 | 1 | 2 => rfl
  | _ + 3 => rfl

theorem lead : ∀ i < 2, (world.network.reply i).isTransport = true := by decide

end Faltering

theorem request_retries_faltering :
    (∀ i, (Faltering.world.network.reply i).isRedirect = false) ∧
      (∀ i < 2, (Faltering.world.network.reply i).isTransport = true) ∧
      (2 ≤ Faltering.settings.retries.toNat →
        (Faltering.world.network.reply 2).isTransport = false) ∧
      request Faltering.settings Faltering.request Faltering.world =
        (.done ⟨503, [], []⟩,
          { Faltering.world with
            network := ⟨Faltering.script, 3, .plain⟩
            exchanges := [⟨Faltering.request, List.replicate 3
              ⟨"POST", "http://api.test/", none, Faltering.settings.timeout, "hi"⟩⟩]
            log := [.webRetry 2, .webRetry 3] }) := by
  have hthen : 2 ≤ Faltering.settings.retries.toNat →
      (Faltering.world.network.reply 2).isTransport = false := fun _ => rfl
  refine ⟨Faltering.direct, Faltering.lead, hthen,
    (request_retries _ _ _ Faltering.direct Faltering.lead hthen).trans ?_⟩
  rfl

end ChatFlow.Web
