import ChatFlow.Settings.Basic
import ChatFlow.World

/-!
# Calling the web

A request is sent up to a number of times: again after a failure of the connection, never after a
response, whatever its status, and never after any other failure. A response that sends the request
elsewhere is followed, at most twenty times.
-/

namespace ChatFlow.Web

/-- How often a request is sent elsewhere before it is given up. -/
def redirectLimit : Nat := 20

/-- One attempt sent and answered. -/
def send (sent : Attempt) : Act World Reply := Act.step fun w =>
  let (reply, network) := w.network.answer
  let record := match w.exchanges.getLast? with
    | some x => w.exchanges.dropLast ++ [{ x with attempts := x.attempts ++ [sent] }]
    | none => w.exchanges
  (reply, { w with network, exchanges := record })

/-- The attempt after a redirect: a changed method leaves the body behind. -/
def Attempt.onward (sent : Attempt) (status : Nat) : Attempt :=
  let method := Response.nextMethod status sent.method
  if method ≠ sent.method && method = "GET" then { sent with method, body := "" }
  else { sent with method }

/-- The failure of an address without scheme. -/
def schemeless (url : String) : Fault :=
  .wrongValue ("unknown url type: " ++ String.ofList (quoteText url.toList))

/-- The client that requests are made with. -/
def client : Act World Client := Act.see fun w => w.network.client

/-- An attempt sent, and the response to it. -/
def receive (sent : Attempt) : Act World Response := do
  match ← send sent with
  | .failure cause message => Act.fail (.web cause message)
  | .response r => if (← client).takes sent.url then return r else Act.fail (schemeless sent.url)

/-- **An attempt followed wherever it is sent.** -/
def follow : Nat → Attempt → Act World Response
  | left, sent => do
    let r ← receive sent
    match r.redirected? with
    | none => return r
    | some location =>
      match left with
      | 0 => Act.fail (.web .tooManyRedirects "Exceeded maximum allowed redirects.")
      | left + 1 =>
        match (← client).urlRefusal? location with
        | some message =>
          Act.fail (.web .remoteProtocolError
            ("Invalid URL in location header: " ++ message ++ "."))
        | none => follow left (sent.onward r.status)

/-- The first attempt of a request. -/
def Request.attempt (r : Request) (settings : WebSettings) : Attempt where
  method := r.method
  url := r.url
  headers := r.headers
  timeout := match r.timeout with
    | some t => if t.isZero then settings.timeout else t
    | none => settings.timeout
  body := r.content.getD ""

/-- **Attempts up to a number**, the next one after a failure of the connection. -/
def attempts (settings : WebSettings) (r : Request) : Nat → Nat → Act World Response
  | _, 0 => Act.fail .conversion
  | n, left + 1 => do
    if 1 < n then World.note (.webRetry n)
    match (← client).refusal? r with
    | some f => Act.fail f
    | none =>
      match ← (follow redirectLimit (r.attempt settings)).attempt with
      | .ok response => return response
      | .error f =>
        if worthRetry f && 0 < left then attempts settings r (n + 1) left else Act.fail f

/-- **A request made.** -/
def request (settings : WebSettings) (r : Request) : Act World Response := do
  Act.change fun w => { w with exchanges := w.exchanges ++ [⟨r, []⟩] }
  attempts settings r 1 (settings.retries.toNat + 1)

end ChatFlow.Web
