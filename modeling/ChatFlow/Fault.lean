/-!
# Faults

Why an operation could not give a result. A fault is named by its cause; `Fault.message` is the
wording shown to chat users when a web call fails.
-/

namespace ChatFlow

/-- **What went wrong on the way to a web server.** -/
inductive WebFault where
  | connectError
  | connectTimeout
  | readTimeout
  | writeTimeout
  | poolTimeout
  | readError
  | writeError
  | closeError
  | localProtocolError
  | remoteProtocolError
  | proxyError
  | unsupportedProtocol
  | decodingError
  | tooManyRedirects
  | invalidUrl
  deriving DecidableEq, Repr

namespace WebFault

/-- All of them. -/
def all : List WebFault :=
  [.connectError, .connectTimeout, .readTimeout, .writeTimeout, .poolTimeout, .readError,
    .writeError, .closeError, .localProtocolError, .remoteProtocolError, .proxyError,
    .unsupportedProtocol, .decodingError, .tooManyRedirects, .invalidUrl]

/-- The name it is known by. -/
def name : WebFault → String
  | .connectError => "ConnectError"
  | .connectTimeout => "ConnectTimeout"
  | .readTimeout => "ReadTimeout"
  | .writeTimeout => "WriteTimeout"
  | .poolTimeout => "PoolTimeout"
  | .readError => "ReadError"
  | .writeError => "WriteError"
  | .closeError => "CloseError"
  | .localProtocolError => "LocalProtocolError"
  | .remoteProtocolError => "RemoteProtocolError"
  | .proxyError => "ProxyError"
  | .unsupportedProtocol => "UnsupportedProtocol"
  | .decodingError => "DecodingError"
  | .tooManyRedirects => "TooManyRedirects"
  | .invalidUrl => "InvalidURL"

/-- The fault of a name. -/
def ofName? (s : String) : Option WebFault := all.find? fun f => f.name = s

theorem ofName?_name (f : WebFault) : ofName? f.name = some f := by
  cases f <;> rfl

/-- Failures of the connection itself, which are worth another attempt. -/
def isTransport : WebFault → Bool
  | .decodingError | .tooManyRedirects | .invalidUrl => false
  | _ => true

end WebFault

/-- One defect of a document: where it is and what is wrong there. -/
structure Defect where
  /-- names and positions from the root of the document -/
  path : List String
  /-- the kind of defect -/
  kind : String
  /-- wording of a rule of this library that was broken -/
  rule : Option String
  deriving DecidableEq, Repr

/-- Documents that are checked as a whole. -/
inductive DocumentKind where
  | workflow
  | task
  deriving DecidableEq, Repr

/-- Why a text is no settings document. -/
inductive SyntaxFault where
  /-- a part of it cannot be read -/
  | unreadable
  /-- its parts do not fit together -/
  | misplaced
  deriving DecidableEq, Repr

/-- **Causes of failure.** -/
inductive Fault where
  /-- an integer beyond the range of doubles was needed as a double -/
  | doubleRange
  /-- a quotient of integers beyond the range of doubles -/
  | quotientRange
  /-- an infinity has no integer value -/
  | infinityToInteger
  /-- not-a-number has no integer value -/
  | nanToInteger
  /-- integers of more than 4300 digits are neither read nor written -/
  | digitLimit
  /-- text with a digit that is not decimal was read as an integer -/
  | notNumeral (text : String)
  /-- a value without JSON form -/
  | notSerializable (kind : String)
  /-- a value of the wrong kind for an operation -/
  | wrongType (message : String)
  /-- a member that this kind of value does not have -/
  | noMember (kind member : String)
  /-- a number in a pattern beyond the limit -/
  | patternRange
  /-- a pattern with options that exclude each other -/
  | patternOptions
  /-- bytes that are not UTF-8 -/
  | undecodable
  /-- text outside ASCII in a message header -/
  | notAscii (message : String)
  /-- a collaborator failed -/
  | collaborator (message : String)
  /-- a web call failed -/
  | web (cause : WebFault) (message : String)
  /-- a value refused by its schema -/
  | invalid (defects : List Defect)
  /-- a document refused by its schema -/
  | invalidDocument (kind : DocumentKind) (defects : List Defect)
  /-- a request refused by a rule of this library -/
  | refused (message : String)
  /-- text that is not a settings document -/
  | settingsSyntax (cause : SyntaxFault)
  /-- a value that an operation cannot work with -/
  | wrongValue (message : String)
  /-- a plain conversion failure -/
  | conversion
  deriving DecidableEq, Repr

/-- The name of a kind of document in messages. -/
def DocumentKind.name : DocumentKind → String
  | .workflow => "Workflow"
  | .task => "ScheduledTask"

/-- Wording of a fault. -/
def Fault.message : Fault → String
  | .doubleRange => "int too large to convert to float"
  | .quotientRange => "integer division result too large for a float"
  | .infinityToInteger => "cannot convert float infinity to integer"
  | .nanToInteger => "cannot convert float NaN to integer"
  | .digitLimit => "Exceeds the limit (4300 digits) for integer string conversion; " ++
      "use sys.set_int_max_str_digits() to increase the limit"
  | .notNumeral text => "invalid literal for int() with base 10: '" ++ text ++ "'"
  | .notSerializable kind => "Object of type " ++ kind ++ " is not JSON serializable"
  | .wrongType message => message
  | .noMember kind member => "'" ++ kind ++ "' object has no attribute '" ++ member ++ "'"
  | .patternRange => "the repetition number is too large"
  | .patternOptions => "ASCII and UNICODE flags are incompatible"
  | .undecodable => "invalid start byte"
  | .notAscii message => message
  | .collaborator message => message
  | .web _ message => message
  | .invalid _ => "validation error"
  | .invalidDocument .workflow _ => "Invalid workflow"
  | .invalidDocument .task _ => "Invalid task"
  | .refused message => message
  | .settingsSyntax .unreadable => "unreadable settings"
  | .settingsSyntax .misplaced => "misplaced settings"
  | .wrongValue message => message
  | .conversion => "invalid literal"

/-- **Whether a fault is one of a bad value**: of a value of the right kind with which nothing can be
done, defects of documents and bytes that are no text among them. -/
def Fault.isBadValue : Fault → Bool
  | .nanToInteger | .digitLimit | .notNumeral _ | .patternOptions | .undecodable | .notAscii _
  | .invalid _ | .invalidDocument _ _ | .refused _ | .wrongValue _ | .conversion => true
  | _ => false

/-- How many defects a document has. -/
def defectCount (count : Nat) : String :=
  toString count ++ if count = 1 then " validation error" else " validation errors"

/-- **A fault in one line.** That of a document counts its defects. -/
def Fault.summary : Fault → String
  | .invalidDocument kind defects =>
    (Fault.invalidDocument kind defects).message ++ ": " ++ defectCount defects.length ++ " for " ++
      kind.name
  | f => f.message

end ChatFlow
