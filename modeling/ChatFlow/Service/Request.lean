import ChatFlow.Json.Bytes
import ChatFlow.Json.Writer
import ChatFlow.Schema.Check
import ChatFlow.Service.Target
import ChatFlow.Value.Plain

/-!
# Requests and replies

What is asked of the service and what it answers.

* `Request.document` — the body as a document. A body whose content type is not JSON is only bytes;
* `Request.entries`, `Request.read` — the body as a map, or as a record. The reply to any other
  body tells its defects;
* `Reply.settled` — a document that cannot be written makes a broken reply.
-/

namespace ChatFlow.Service

/-! ## Replies -/

/-- **What the service answers.** -/
inductive Reply where
  /-- a document -/
  | document (status : Nat) (body : Value)
  /-- plain text -/
  | plain (status : Nat) (text : String)
  /-- what is wrong with the request -/
  | defects (list : List Defect)
  deriving Repr

namespace Reply

/-- The status of a reply. -/
def status : Reply → Nat
  | .document status _ => status
  | .plain status _ => status
  | .defects _ => 422

/-- A document of entries, all being well. -/
def entries (fields : Table Value) : Reply := .document 200 (.object fields)

/-- The reply to a request that was carried out. -/
def success (fields : Table Value) : Reply := entries (("success", .bool true) :: fields)

/-- The reply to a request that was understood and turned down. -/
def refusal (error : String) : Reply :=
  entries [("success", .bool false), ("error", .text error)]

/-- The reply to a request that needs the master password. -/
def locked : Reply :=
  entries [("success", .bool false), ("error", .text "master password required"),
    ("need_auth", .bool true)]

/-- A reply that consists of a remark. -/
def remark (status : Nat) (detail : String) : Reply :=
  .document status (.object [("detail", .text detail)])

/-- The reply where the service failed. -/
def broken : Reply := .plain 500 "Internal Server Error"

/-- Whether a document can be written. -/
def canWrite (v : Value) : Bool := v.allFinite && (Json.write .compact v).isOk

/-- **A reply that can be sent.** -/
def settled : Reply → Reply
  | .document status body => if canWrite body then .document status body else broken
  | reply => reply

end Reply

/-! ## Requests -/

/-- **What is asked of the service.** -/
structure Request where
  /-- the method -/
  method : String
  /-- what is asked for -/
  target : Target
  /-- the content type of the body, if it is named -/
  contentType : Option String
  /-- the body -/
  body : List UInt8
  deriving Repr

/-- The body of a request. -/
inductive Body where
  /-- there is none -/
  | absent
  /-- a document -/
  | document (v : Value)
  /-- bytes that are no document -/
  | bytes
  deriving Repr

namespace Request

/-- Whether a content type is that of JSON documents. -/
def isJsonType (contentType : String) : Bool :=
  let (name, _) := cutAt ';' contentType.toList
  match splitOn ['/'] (trimChars name) with
  | [main, sub] =>
    let sub := Schema.lowerAscii (String.ofList sub)
    Schema.lowerAscii (String.ofList main) = "application" &&
      (sub = "json" || sub.endsWith "+json")
  | _ => false

/-- Whether the body of a request is taken for JSON. -/
def hasJson (r : Request) : Bool :=
  match r.contentType with
  | some t => t = "" || isJsonType t
  | none => true

/-- Defects of the body. -/
def bodyDefects (found : List Defect) : Reply := .defects (found.map (Schema.under "body"))

/-- One defect of the body. -/
def bodyDefect (kind : String) : Reply := bodyDefects [Schema.defect kind]

/-- The body of a request; a document of nothing is as good as none. -/
def readBody (r : Request) : Except Reply Body :=
  if r.body.isEmpty then .ok .absent
  else if !r.hasJson then .ok .bytes
  else match Json.readBytes r.body with
    | some (.ok .null) => .ok .absent
    | some (.ok v) | some (.error (.halfSurrogate v)) => .ok (.document v)
    | some (.error .malformed) => .error (bodyDefect "json_invalid")
    | some (.error .digitLimit) | none =>
      .error (Reply.remark 400 "There was an error parsing the body")

/-- The entries of the body; `otherwise` is the defect of a body that is no map. -/
def entriesOr (otherwise : String) (r : Request) : Except Reply (Table Value) := do
  match ← r.readBody with
  | .absent => throw (bodyDefect "missing")
  | .document (.object entries) => return entries
  | _ => throw (bodyDefect otherwise)

/-- **The entries of a body that is a map.** -/
def entries (r : Request) : Except Reply (Table Value) := r.entriesOr "dict_type"

/-- **The record of a body.** -/
def read {α : Type} (r : Request) (record : Table Value → Schema.Checked α) : Except Reply α := do
  let entries ← r.entriesOr "model_attributes_type"
  (record entries).mapError bodyDefects

end Request

end ChatFlow.Service
