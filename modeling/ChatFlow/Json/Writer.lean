import ChatFlow.Value.Display

/-!
# Writing JSON

`Json.write` prints a value in a layout: what stands between entries, whether and how deep lines
are indented, and whether bytes are written as their quoted text or refused. Text outside ASCII is
written as it is; whole doubles keep their point.
-/

namespace ChatFlow.Json

/-- **A layout of written JSON.** -/
structure Layout where
  /-- after an entry, before the next on the same line -/
  entrySeparator : String
  /-- between a key and its value -/
  keySeparator : String
  /-- spaces per level when every entry has its own line -/
  indent : Option Nat
  /-- whether bytes are written as quoted text -/
  bytesAsText : Bool

/-- One line, a space after commas and colons. -/
def Layout.line : Layout := ⟨", ", ": ", none, false⟩

/-- One line without spaces. -/
def Layout.compact : Layout := ⟨",", ":", none, false⟩

/-- Two spaces per level, as in stored documents. -/
def Layout.stored : Layout := ⟨",", ": ", some 2, false⟩

/-- Two spaces per level, with bytes as quoted text. -/
def Layout.storedValues : Layout := ⟨",", ": ", some 2, true⟩

/-- One character of a string. -/
def escapeChar (c : Char) : List Char :=
  if c = '"' then ['\\', '"']
  else if c = '\\' then ['\\', '\\']
  else if c = '\n' then ['\\', 'n']
  else if c = '\r' then ['\\', 'r']
  else if c = '\t' then ['\\', 't']
  else if c.toNat = 8 then ['\\', 'b']
  else if c.toNat = 12 then ['\\', 'f']
  else if c.toNat < 32 then '\\' :: 'u' :: hexDigits 4 c.toNat
  else [c]

/-- A string between quotes. -/
def quote (s : List Char) : List Char := '"' :: s.flatMap escapeChar ++ ['"']

/-- A number. -/
def numberText : Number → Except Fault String
  | .int n => Number.intText? n
  | .double .nan => .ok "NaN"
  | .double (.infinity negative) => .ok (if negative then "-Infinity" else "Infinity")
  | .double x => .ok x.text

namespace Layout

/-- A line break and the spaces of a level, where the layout has lines. -/
def breakAt (layout : Layout) (level : Nat) : List Char :=
  match layout.indent with
  | some width => '\n' :: List.replicate (width * level) ' '
  | none => []

/-- Entries between brackets. -/
def enclose (layout : Layout) (level : Nat) (opening closing : Char)
    (entries : List (List Char)) : List Char :=
  if entries.isEmpty then [opening, closing]
  else
    opening :: layout.breakAt (level + 1) ++
      joinWith (layout.entrySeparator.toList ++ layout.breakAt (level + 1)) entries ++
      layout.breakAt level ++ [closing]

end Layout

mutual

/-- The characters of a value at a level. -/
def chars (layout : Layout) (level : Nat) : Value → Except Fault (List Char)
  | .null => .ok "null".toList
  | .bool b => .ok (if b then "true" else "false").toList
  | .number n => (numberText n).map String.toList
  | .text s => .ok (quote s.toList)
  | .bytes data =>
    if layout.bytesAsText then .ok (quote (quoteBytes data)) else .error (.notSerializable "bytes")
  | .list items => do return layout.enclose level '[' ']' (← itemChars layout (level + 1) items)
  | .tuple items => do return layout.enclose level '[' ']' (← itemChars layout (level + 1) items)
  | .object fields => do
    return layout.enclose level '\x7b' '\x7d' (← fieldChars layout (level + 1) fields)

/-- The items of a list. -/
def itemChars (layout : Layout) (level : Nat) : List Value → Except Fault (List (List Char))
  | [] => .ok []
  | v :: rest => do
    let first ← chars layout level v
    return first :: (← itemChars layout level rest)

/-- The entries of an object. -/
def fieldChars (layout : Layout) (level : Nat) :
    List (String × Value) → Except Fault (List (List Char))
  | [] => .ok []
  | (key, v) :: rest => do
    let value ← chars layout level v
    let others ← fieldChars layout level rest
    return (quote key.toList ++ layout.keySeparator.toList ++ value) :: others

end

/-- **Written JSON.** -/
def write (layout : Layout) (v : Value) : Except Fault String :=
  (chars layout 0 v).map String.ofList

end ChatFlow.Json
