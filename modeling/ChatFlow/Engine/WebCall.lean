import ChatFlow.Engine.Scene
import ChatFlow.Json.Bytes
import ChatFlow.Web.Caller
import ChatFlow.Workflow.Params

/-!
# Web calls of workflows

The action `custom_api`, which calls the web and replies with what it was answered. However the call
ends, the chat gets one reply: what was answered, or why nothing was.
-/

namespace ChatFlow.WebCall

/-! ## The request -/

/-- Methods whose requests have a body. -/
def bodyMethods : List String := ["POST", "PUT", "PATCH"]

/-- The headers of every request. -/
def baseHeaders (settings : WebSettings) : Except Fault (Table String) := do
  return [("User-Agent", ← settings.userAgent.show?), ("Accept", "*/*"),
    ("Content-Type", "application/json")]

/-- Headers written as lines of a name, a colon and a template. -/
def lineHeaders (scene : Scene) (headers : Table String) : List (List Char) → Act World (Table String)
  | [] => return headers
  | line :: rest => do
    let (name, value) := cutAt ':' line
    let name := trimChars name
    let value := trimChars value
    if name.isEmpty || value.isEmpty then lineHeaders scene headers rest
    else
      let text ← scene.render (String.ofList value)
      lineHeaders scene (headers.insert (String.ofList name) text) rest

/-- Headers written as a document. -/
def tableHeaders (headers : Table String) : Table Value → Except Fault (Table String)
  | [] => .ok headers
  | (name, v) :: rest => do tableHeaders (headers.insert name (← v.toText)) rest

/-- **The headers of a call**: written as a document, or else line by line. -/
def headersOf (scene : Scene) (p : ActionParams) : Act World (Table String) := do
  let base ← Act.of (baseHeaders scene.settings.web)
  if p.apiHeaders = "" then return base
  else match Json.shown? (Json.read p.apiHeaders) with
    | some (.object entries) => Act.of (tableHeaders base entries)
    | some _ => return base
    | none => lineHeaders scene base (lines p.apiHeaders.toList)

/-- A body that is a document tells who the bot is. -/
def signed (settings : Settings) : Value → Value
  | .object entries =>
    if settings.botId = "" then .object entries
    else .object (Table.merge entries settings.requestMeta)
  | v => v

/-- **The body of a call**: a document is written anew, other text is sent as it is. -/
def bodyOf (scene : Scene) (p : ActionParams) (method : String) : Act World (Option String) :=
  if p.apiBody = "" || !bodyMethods.contains method then return none
  else do
    let content ← scene.render p.apiBody
    match Json.shown? (Json.read content) with
    | some v => return some (← Act.of (Json.write .line (signed scene.settings v)))
    | none => return some content

/-- The seconds until a call is given up, by `api_timeout` or else by the settings. -/
def timeoutOf (settings : WebSettings) (v : Value) : Except Fault Number := do
  let n := v.toNumber
  if ← n.truthy then return if n.greater (.int 0) then n else settings.timeout
  else return settings.timeout

/-- **The request that a node makes**, with its templates rendered. -/
def requestOf (scene : Scene) (p : ActionParams) : Act World Web.Request := do
  let url ← scene.render p.apiUrl
  let method := upperText p.apiMethod
  let headers ← headersOf scene p
  let content ← bodyOf scene p method
  let timeout ← Act.of (timeoutOf scene.settings.web p.apiTimeout)
  return ⟨method, url, some headers, content, some timeout⟩

/-! ## The response -/

/-- The document of a response, if its body is one. -/
def document? (r : Web.Response) : Option Value := (Json.readBytes r.body).bind Json.shown?

/-- A response kept as a document, or else as text. -/
def keepDocument (r : Web.Response) : Act World Unit :=
  match document? r with
  | some v => do
    World.assign "api_json" v
    World.assign "api_response" (.text (← Act.of (Json.write .compact v)))
  | none => World.assign "api_response" (.text r.text)

/-- **What a response leaves in the variables**: `api_status` and `api_response`, and by
`response_type` also `api_json` or `api_binary`. -/
def keep (p : ActionParams) (url : String) (r : Web.Response) : Act World Unit := do
  World.assign "api_status" (.int r.status)
  match p.responseType with
  | "json" => keepDocument r
  | "binary" =>
    World.assign "api_binary" (.bytes r.body)
    World.assign "api_response" (.text url)
  | _ => World.assign "api_response" (.text r.text)

/-- The text of the reply: `api_reply` rendered with the response, or else the response. -/
def replyText (scene : Scene) (p : ActionParams) : Act World String :=
  if p.apiReply ≠ "" then Template.renderJson scene.occasion p.apiReply
  else do
    let w ← Act.look
    Act.of (w.valueOf "api_response").toText

/-- The file of the reply: the bytes of a binary response, if there are any. -/
def payload (p : ActionParams) (w : World) (text : String) : FileRef :=
  match w.valueOf "api_binary" with
  | .bytes data => if p.responseType = "binary" && !data.isEmpty then .content data else .address text
  | _ => .address text

/-- Text cut at triple bars into parts that are not blank. -/
def variants (s : String) : List String :=
  (((splitOn ['|', '|', '|'] s.toList).map trimChars).filter fun v => !v.isEmpty).map String.ofList

/-- **The reply with what was answered**, as `reply_type` has it. -/
def replyWith (scene : Scene) (p : ActionParams) : Act World Unit := do
  let text ← replyText scene p
  let w ← Act.look
  let file := payload p w text
  match p.replyType with
  | "image" =>
    let caption ← scene.render p.imageText
    scene.tell (.image file (Scene.nonblank caption))
  | "voice" => scene.tell (.voice file)
  | "video" => scene.tell (.video file)
  | "forward" => scene.tell (.forward (variants text))
  | _ => scene.tell (.reply text)

/-! ## The call -/

/-- The text of the reply about a call that failed. -/
def apology (settings : WebSettings) (f : Fault) : Except Fault String := do
  let start ← settings.failurePrefix.show?
  return start ++ (if f.message = "" then "超时" else f.message)

/-- **A web call and the reply to it.** -/
def run (scene : Scene) (p : ActionParams) : Act World Unit := do
  let request ← requestOf scene p
  let ending ← Act.attempt (do
    let response ← Web.request scene.settings.web request
    keep p request.url response
    replyWith scene p)
  match ending with
  | .ok _ => return ()
  | .error f =>
    World.note .webCallFailed
    scene.tell (.reply (← Act.of (apology scene.settings.web f)))

end ChatFlow.WebCall
