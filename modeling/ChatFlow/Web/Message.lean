import ChatFlow.Number.Basic
import ChatFlow.Table
import ChatFlow.Text.Case
import ChatFlow.Text.Quoted
import ChatFlow.Text.Search
import ChatFlow.Text.Utf8

/-!
# Web messages

A request, the response to it, and the checks a request passes before it is sent.

* `Response.text` — the body by the character set its content type names, UTF-8 otherwise;
* `Client` — the client that requests are made with, as far as it decides what is sent and received;
* `Client.plain` — one that refuses an address with control characters and headers outside ASCII;
* `Response.redirected?` — how a request goes on elsewhere.
-/

namespace ChatFlow.Web

/-! ## Requests -/

/-- **A request as the caller made it.** -/
structure Request where
  /-- the method -/
  method : String
  /-- the address -/
  url : String
  /-- headers, if any were given -/
  headers : Option (Table String)
  /-- the body, if any -/
  content : Option String
  /-- seconds until it is given up, if the caller says so -/
  timeout : Option Number
  deriving Repr

/-- A character of ASCII that is not printed. -/
def isControl (c : Char) : Bool := c.toNat < 32 || c.toNat = 127

/-- What is wrong with an address. -/
def urlRefusal? (url : List Char) : Option String :=
  if 65536 < url.length then some "URL too long"
  else match url.find? isControl with
    | some c =>
      let i := url.findIdx isControl
      some ("Invalid non-printable ASCII character in URL, " ++ String.ofList (quoteText [c]) ++
        " at position " ++ toString i ++ ".")
    | none => none

/-- The escape of a character in a message about text outside ASCII. -/
def codeEscape (c : Char) : List Char :=
  if c.toNat < 256 then '\\' :: 'x' :: hexDigits 2 c.toNat
  else if c.toNat < 65536 then '\\' :: 'u' :: hexDigits 4 c.toNat
  else '\\' :: 'U' :: hexDigits 8 c.toNat

/-- What is wrong with text that has to be ASCII: its first run of other characters. -/
def asciiRefusal? (s : List Char) : Option String :=
  let before := s.takeWhile fun c => c.toNat < 128
  let run := (s.dropWhile fun c => c.toNat < 128).takeWhile fun c => 128 ≤ c.toNat
  let start := before.length
  match run with
  | [] => none
  | [c] => some ("'ascii' codec can't encode character '" ++ String.ofList (codeEscape c) ++
      "' in position " ++ toString start ++ ": ordinal not in range(128)")
  | _ => some ("'ascii' codec can't encode characters in position " ++ toString start ++ "-" ++
      toString (start + run.length - 1) ++ ": ordinal not in range(128)")

/-- What is wrong with headers. -/
def headersRefusal? (headers : Table String) : Option String :=
  (headers.flatMap fun entry => [entry.1, entry.2]).findSome? fun s => asciiRefusal? s.toList

/-- Why a plain client does not send a request. -/
def Request.refusal? (r : Request) : Option Fault :=
  match urlRefusal? r.url.toList with
  | some message => some (.web .invalidUrl message)
  | none => (headersRefusal? (r.headers.getD [])).map .notAscii

/-- A letter, digit or sign of a scheme. -/
def isSchemeChar (c : Char) : Bool := c.isAlphanum || c = '+' || c = '-' || c = '.'

/-- Whether an address names its scheme. -/
def hasScheme (url : List Char) : Bool :=
  (url.head?.map Char.isAlpha).getD false &&
    (url.dropWhile isSchemeChar).head? = some ':'

/-- Whether a failure is worth another attempt. -/
def worthRetry : Fault → Bool
  | .web cause _ => cause.isTransport
  | _ => false

/-- **The client that requests are made with.** It comes from elsewhere: what it refuses, and why, is
known to it alone. -/
structure Client where
  /-- why a request is not sent at all -/
  refusal? : Request → Option Fault
  /-- what is wrong with an address that a response sends the request to -/
  urlRefusal? : String → Option String
  /-- whether a response from an address is taken -/
  takes : String → Bool
  /-- what is not sent is no failure of the connection -/
  unsent {r : Request} {f : Fault} (h : refusal? r = some f) : worthRetry f = false

theorem Request.worthRetry_of_refusal {r : Request} {f : Fault} (h : r.refusal? = some f) :
    worthRetry f = false := by
  unfold refusal? at h
  split at h
  · cases h
    rfl
  · obtain ⟨message, -, rfl⟩ := Option.map_eq_some_iff.mp h
    rfl

/-- **A plain client**: it does not check addresses to the end. -/
def Client.plain : Client where
  refusal? := Request.refusal?
  urlRefusal? url := Web.urlRefusal? url.toList
  takes url := hasScheme url.toList
  unsent := Request.worthRetry_of_refusal

/-! ## Responses -/

/-- **A response.** -/
structure Response where
  /-- its status -/
  status : Nat
  /-- its headers -/
  headers : Table String
  /-- its body -/
  body : List UInt8
  deriving Repr

namespace Response

/-- The value of a header, whatever the case of its name. -/
def header? (r : Response) (name : String) : Option String :=
  (r.headers.find? fun entry => lowerText entry.1 = name).map Prod.snd

/-- The parameters of a content type. -/
def parameters (contentType : String) : List (List Char) :=
  ((splitOn [';'] contentType.toList).drop 1).map trimChars

/-- A parameter's text without the quotes around it. -/
def unquoted (s : List Char) : List Char :=
  match s with
  | '"' :: rest => if rest.getLast? = some '"' then rest.dropLast else s
  | _ => s

/-- The value of the parameter `charset`. -/
def charsetIn (parameter : List Char) : Option String :=
  let (key, value) := cutAt '=' parameter
  if lowerText (String.ofList (trimChars key)) = "charset" then
    some (lowerText (String.ofList (unquoted (trimChars value))))
  else none

/-- The character set that a response names. -/
def charset? (r : Response) : Option String :=
  (r.header? "content-type").bind fun t => (parameters t).findSome? charsetIn

/-- The name of a character set with its signs made alike. -/
def plainName (s : String) : String := s.map fun c => if c.isAlphanum then c else '_'

/-- Names of the character set whose codes are single bytes. -/
def latinNames : List String :=
  ["latin_1", "latin1", "latin", "l1", "iso_8859_1", "iso8859_1", "iso8859", "8859", "cp819",
    "iso_ir_100", "iso_8859_1_1987", "ibm819"]

/-- Names of ASCII. -/
def asciiNames : List String :=
  ["ascii", "us_ascii", "us", "646", "ansi_x3_4_1968", "ansi_x3_4_1986", "ansi_x3.4_1968", "cp367",
    "csascii", "ibm367", "iso646_us", "iso_646.irv_1991", "iso_ir_6"]

/-- One byte of ASCII. -/
def asciiChar (b : UInt8) : Char := if b < 128 then Char.ofNat b.toNat else '\ufffd'

/-- **The body as text.** -/
def text (r : Response) : String :=
  match r.charset?.map plainName with
  | some name =>
    if latinNames.contains name then String.ofList (r.body.map fun b => Char.ofNat b.toNat)
    else if asciiNames.contains name then String.ofList (r.body.map asciiChar)
    else String.ofList (Utf8.decodeLossy r.body)
  | none => String.ofList (Utf8.decodeLossy r.body)

/-- The method after a redirect. -/
def nextMethod (status : Nat) (method : String) : String :=
  if status = 303 && method ≠ "HEAD" then "GET"
  else if status = 302 && method ≠ "HEAD" then "GET"
  else if status = 301 && method = "POST" then "GET"
  else method

/-- **Where the request goes on**, if the response sends it elsewhere. -/
def redirected? (r : Response) : Option String :=
  if [301, 302, 303, 307, 308].contains r.status then r.header? "location" else none

end Response

/-! ## What comes back -/

/-- One answer of the network. -/
inductive Reply where
  /-- a response -/
  | response (r : Response)
  /-- a failure on the way -/
  | failure (cause : WebFault) (message : String)
  deriving Repr

/-- **The network**, as the answers it gives one after another, the last one again and again, to a
client. -/
structure Network where
  /-- the answers -/
  script : List Reply
  /-- how many were given -/
  given : Nat
  /-- the client -/
  client : Client

namespace Network

/-- The answer that comes next. -/
def peek (n : Network) : Reply :=
  match n.script[n.given]? with
  | some r => r
  | none => n.script.getLast?.getD (.failure .connectError "no route")

/-- **One answer.** -/
def answer (n : Network) : Reply × Network := (n.peek, { n with given := n.given + 1 })

end Network

/-! ## What was sent -/

/-- One attempt of a request. -/
structure Attempt where
  /-- the method sent -/
  method : String
  /-- the address asked for, wherever the request is sent from there -/
  url : String
  /-- the headers asked for -/
  headers : Option (Table String)
  /-- seconds until it is given up -/
  timeout : Number
  /-- the body sent -/
  body : String
  deriving Repr

/-- **A request and its attempts.** -/
structure Exchange where
  /-- as the caller made it -/
  request : Request
  /-- as it was sent -/
  attempts : List Attempt
  deriving Repr

end ChatFlow.Web
