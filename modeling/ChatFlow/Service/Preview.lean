import ChatFlow.Engine.WebCall
import ChatFlow.Service.Host

/-!
# Previews of web calls

An author of a workflow tries a web call and sees what comes back: a document, a text cut to a
length people can look at, or that it is neither.
-/

namespace ChatFlow.Service.Preview

/-! ## The request -/

/-- **Headers as they were sent.** -/
inductive Headers where
  /-- as entries -/
  | listed (entries : Table Value)
  /-- as the text of a document -/
  | written (text : String)
  deriving Repr

/-- A defect of one of the two ways to send headers. -/
def headersDefect (way kind : String) : Defect := ⟨[way], kind, none⟩

/-- Headers read. -/
def Headers.read : Value → Schema.Checked Headers
  | .object entries => .ok (.listed entries)
  | .text s => .ok (.written s)
  | _ => .error [headersDefect "dict[str,any]" "dict_type", headersDefect "str" "string_type"]

/-- The entries of headers; a text that is no map has none. -/
def Headers.entries : Headers → Table Value
  | .listed entries => entries
  | .written text =>
    match Json.shown? (Json.read text) with
    | some v => v.entries
    | none => []

/-- **A web call to try.** -/
structure Trial where
  /-- the address -/
  url : String
  /-- the method -/
  method : String
  /-- the headers -/
  headers : Headers
  /-- the body -/
  body : Option String
  deriving Repr

/-- A web call read. -/
def Trial.read (entries : Table Value) : Schema.Checked Trial :=
  Schema.finish do
    let url ← Schema.optional entries "url" Schema.plainText ""
    let method ← Schema.optional entries "method" Schema.plainText "GET"
    let headers ← Schema.optional entries "headers" Headers.read (.listed [])
    let body ← Schema.optional entries "body" (Schema.nullable Schema.plainText) none
    return ⟨url, method, headers, body⟩

/-- Headers with entries written over them, as text. -/
def withEntries (headers : Table String) : Table Value → Except Fault (Table String)
  | [] => .ok headers
  | (name, v) :: rest => do withEntries (headers.insert name (← v.show?)) rest

/-- **The request of a trial.** -/
def Trial.request (settings : WebSettings) (t : Trial) : Except Fault Web.Request := do
  let usual := [("User-Agent", ← settings.userAgent.show?), ("Accept", "*/*")]
  let headers ← withEntries usual t.headers.entries
  let method := upperText t.method
  let content := if WebCall.bodyMethods.contains method then t.body else none
  return ⟨method, t.url, some headers, content, some settings.timeout⟩

/-! ## The response -/

/-- How many characters of a text are shown. -/
def textLimit : Nat := 5000

/-- Words in the content type of what is neither text nor document. -/
def binaryWords : List String := ["image", "audio", "video"]

/-- Whether a word occurs in a content type. -/
def mentions (contentType word : String) : Bool := occursIn word.toList contentType.toList

/-- The reply that shows something of a response. -/
def shown (r : Web.Response) (fields : Table Value) : Reply :=
  Reply.success (("status_code", .int r.status) :: fields)

/-- The text of a response, cut. -/
def cutText (r : Web.Response) : Value := .text (String.ofList (r.text.toList.take textLimit))

/-- **What is shown of a response.** -/
def show? (r : Web.Response) : Except Fault Reply :=
  let contentType := (r.header? "content-type").getD ""
  if binaryWords.any (mentions contentType) then
    .ok (shown r [("is_binary", .bool true), ("response", .text "[binary]")])
  else if mentions contentType "application/json" then
    match WebCall.document? r with
    | some v => do
      return shown r [("is_json", .bool true), ("json_data", v),
        ("response", .text (← Json.write .line v))]
    | none => .ok (shown r [("response", cutText r)])
  else .ok (shown r [("response", cutText r)])

/-- The reply to a trial that failed. -/
def failed (f : Fault) : Reply :=
  Reply.refusal (if f.message = "" then "request failed" else f.message)

/-- **The endpoint `/test_api`**: a web call is tried, and its response shown. -/
def run (host : Host) (r : Request) : Endeavour :=
  given (r.read Trial.read) fun t =>
    if t.url = "" then return Reply.refusal "missing url"
    else do
      let request ← Act.of (t.request host.settings.web)
      match ← (Bot.inWorld (Web.request host.settings.web request)).attempt with
      | .ok response => Act.of (show? response)
      | .error f => return failed f

end ChatFlow.Service.Preview
