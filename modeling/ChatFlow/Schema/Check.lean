import ChatFlow.Value.Display
import ChatFlow.Text.Utf8
import ChatFlow.Json.Reader

/-!
# Checking documents

A document is read into a typed record field by field. Every field is read, and all defects are
reported in the order of the fields. Reading is forgiving about how a value is spelled:

* `Schema.text` — numbers become their text, truth values do not;
* `Schema.flag` — `0`, `1` and the usual words for yes and no;
* `Schema.integer`, `Schema.real` — whole doubles, truth values and numerals in text;
* `Schema.items`, `Schema.map` — lists and maps.
-/

namespace ChatFlow.Schema

/-- A value that was read, or the defects found in it. -/
abbrev Checked (α : Type) := Except (List Defect) α

/-- A defect of the value itself. -/
def defect (kind : String) : Defect := ⟨[], kind, none⟩

/-- A value with one defect. -/
def refuse {α : Type} (kind : String) : Checked α := .error [defect kind]

/-- A defect seen from the value around. -/
def under (segment : String) (d : Defect) : Defect := { d with path := segment :: d.path }

/-- Defects seen from the value around. -/
def inside {α : Type} (segment : String) (r : Checked α) : Checked α :=
  r.mapError (·.map (under segment))

/-! ## Reading fields

A reader of fields goes on after a defect, so that all are found. -/

/-- Reads fields and collects defects. -/
abbrev Fields := StateM (List Defect)

/-- Takes a checked value; a defective one is replaced for the time being. -/
def take {α : Type} (fallback : α) (r : Checked α) : Fields α := fun found =>
  match r with
  | .ok v => (v, found)
  | .error ds => (fallback, found ++ ds)

/-- The record, unless there are defects. -/
def finish {α : Type} (fields : Fields α) : Checked α :=
  match fields [] with
  | (v, []) => .ok v
  | (_, ds) => .error ds

/-- A field that has to be there. -/
def required {α : Type} (data : Table Value) (key : String) (read : Value → Checked α)
    (fallback : α) : Fields α :=
  take fallback (inside key (match data.get? key with
    | some v => read v
    | none => refuse "missing"))

/-- A field with a default. -/
def optional {α : Type} (data : Table Value) (key : String) (read : Value → Checked α)
    (default : α) : Fields α :=
  match data.get? key with
  | some v => take default (inside key (read v))
  | none => pure default

/-! ## Kinds of values -/

/-- The text of a number. -/
def numberText : Number → String
  | .int n => intText n
  | .double x => x.text

/-- Bytes as text. -/
def bytesText (data : List UInt8) : Checked String :=
  match Utf8.decode? data with
  | some s => .ok (String.ofList s)
  | none => refuse "string_unicode"

/-- **Text**, or a number as its text. -/
def text : Value → Checked String
  | .text s => .ok s
  | .number n => .ok (numberText n)
  | .bytes data => bytesText data
  | _ => refuse "string_type"

/-- Text and nothing else. -/
def plainText : Value → Checked String
  | .text s => .ok s
  | .bytes data => bytesText data
  | _ => refuse "string_type"

/-- A value that may be absent. -/
def nullable {α : Type} (read : Value → Checked α) : Value → Checked (Option α)
  | .null => .ok none
  | v => (read v).map some

/-- Any value. -/
def anything (v : Value) : Checked Value := .ok v

/-- A map. -/
def map : Value → Checked (Table Value)
  | .object fields => .ok fields
  | _ => refuse "dict_type"

/-- The document of a record. -/
def record : Value → Checked (Table Value)
  | .object fields => .ok fields
  | _ => refuse "model_type"

/-- The items of a list with their positions, all defects together. -/
def itemsFrom {α : Type} (read : Value → Checked α) : Nat → List Value → Checked (List α)
  | _, [] => .ok []
  | i, v :: rest =>
    match inside (toString i) (read v), itemsFrom read (i + 1) rest with
    | .ok a, .ok others => .ok (a :: others)
    | .ok _, .error ds => .error ds
    | .error ds, .ok _ => .error ds
    | .error ds, .error others => .error (ds ++ others)

/-- **A list.** -/
def items {α : Type} (read : Value → Checked α) : Value → Checked (List α)
  | .list l => itemsFrom read 0 l
  | .tuple l => itemsFrom read 0 l
  | _ => refuse "list_type"

/-! ## Truth values -/

/-- Lower case of ASCII text. -/
def lowerAscii (s : String) : String := s.map Char.toLower

/-- The truth value of a word. -/
def wordFlag? (s : String) : Option Bool :=
  let w := lowerAscii s
  if ["1", "on", "t", "true", "y", "yes"].contains w then some true
  else if ["0", "off", "f", "false", "n", "no"].contains w then some false
  else none

/-- The truth value of a number. -/
def numberFlag : Number → Checked Bool
  | .int n =>
    if n = 0 then .ok false
    else if n = 1 then .ok true
    else if -(Nat.pow 2 63 : Int) ≤ n && n < Nat.pow 2 63 then refuse "bool_parsing"
    else refuse "bool_type"
  | .double x =>
    match x.truncate? with
    | some n =>
      if !x.isInteger then refuse "bool_type"
      else if n = 0 then .ok false
      else if n = 1 then .ok true
      else if n.natAbs < Nat.pow 2 63 then refuse "bool_parsing"
      else refuse "bool_type"
    | none => refuse "bool_type"

/-- **A truth value.** -/
def flag : Value → Checked Bool
  | .bool b => .ok b
  | .number n => numberFlag n
  | .text s => match wordFlag? s with
    | some b => .ok b
    | none => refuse "bool_parsing"
  | .bytes data => match (Utf8.decode? data).bind fun s => wordFlag? (String.ofList s) with
    | some b => .ok b
    | none => refuse "bool_parsing"
  | _ => refuse "bool_type"

/-! ## Numerals in text -/

/-- White space around a numeral. The separators `U+001C` to `U+001F` do not count. -/
def isSpace (c : Char) : Bool := isBlank c && !(0x1c ≤ c.toNat && c.toNat ≤ 0x1f)

/-- The text without white space at its ends. -/
def trimmed (s : List Char) : List Char :=
  ((s.dropWhile isSpace).reverse.dropWhile isSpace).reverse

/-- The text without single underscores between its characters. -/
def dropUnderscores? (s : List Char) : Option (List Char) :=
  if s.head? = some '_' || s.getLast? = some '_' || occursIn ['_', '_'] s then none
  else some (s.filter (· ≠ '_'))

/-- The whole part of a numeral whose places are all zero. -/
def dropZeroPlaces (s : List Char) : List Char :=
  match s.dropWhile (· ≠ '.') with
  | '.' :: places => if places.all (· = '0') then s.takeWhile (· ≠ '.') else s
  | _ => s

/-- An integer in text, without sign or with a minus, which leading zeros do not follow. -/
def integerDigits? (s : List Char) : Option Int :=
  let (negative, digits) := match s with
    | '-' :: rest => (true, rest)
    | rest => (false, rest)
  if digits.isEmpty || !digits.all Json.isAsciiDigit then none
  else if negative && digits.head? = some '0' && 1 < digits.length then none
  else
    let n : Int := Json.digitsValue digits
    some (if negative then -n else n)

/-- An integer in text: white space around it, a plus, single underscores and places of zeros are
passed over. -/
def integerText? (s : List Char) : Option Int := do
  let s := trimmed s
  let s ← match s with
    | '+' :: '-' :: _ => none
    | '+' :: rest => some rest
    | rest => some rest
  integerDigits? (← dropUnderscores? (dropZeroPlaces s))

/-- **An integer.** -/
def integer : Value → Checked Int
  | .bool b => .ok (if b then 1 else 0)
  | .number (.int n) => .ok n
  | .number (.double x) =>
    match x.truncate? with
    | none => refuse "finite_number"
    | some n =>
      if !x.isInteger then refuse "int_from_float"
      else if n.natAbs < Nat.pow 2 63 then .ok n
      else refuse "int_parsing"
  | .text s => match integerText? s.toList with
    | some n => if n.natAbs < Nat.pow 10 Number.digitLimit then .ok n else refuse "int_parsing_size"
    | none => refuse "int_parsing"
  | .bytes data => match (Utf8.decode? data).bind integerText? with
    | some n => .ok n
    | none => refuse "int_parsing"
  | _ => refuse "int_type"

/-- A double in text: ASCII digits, or a word for an infinity or not-a-number. -/
def realDigits? (s : List Char) : Option Double := do
  let (negative, rest) := match s with
    | '-' :: rest => (true, rest)
    | '+' :: rest => (false, rest)
    | rest => (false, rest)
  let word := lowerAscii (String.ofList rest)
  if word = "nan" then some .nan
  else if word = "inf" || word = "infinity" then some (.infinity negative)
  else
    let whole := rest.takeWhile Json.isAsciiDigit
    let afterWhole := rest.dropWhile Json.isAsciiDigit
    let (places, afterPlaces) := match afterWhole with
      | '.' :: more => (more.takeWhile Json.isAsciiDigit, more.dropWhile Json.isAsciiDigit)
      | more => ([], more)
    if whole.isEmpty && places.isEmpty then none
    else
      let (power, afterPower) := Json.exponent afterPlaces
      if afterPower.isEmpty then
        some (Double.ofDecimal negative (Json.digitsValue (whole ++ places))
          (power.getD 0 - places.length))
      else none

/-- A double in text, with white space around it, or else with single underscores. -/
def realText? (s : List Char) : Option Double :=
  match realDigits? (trimmed s) with
  | some x => some x
  | none => if s.contains '_' then (dropUnderscores? s).bind realDigits? else none

/-- **A double.** -/
def real : Value → Checked Double
  | .bool b => .ok (Double.ofInt (if b then 1 else 0))
  | .number n => match n.toDouble with
    | .ok x => .ok x
    | .error _ => refuse "float_type"
  | .text s => match realText? s.toList with
    | some x => .ok x
    | none => refuse "float_parsing"
  | .bytes data => match (Utf8.decode? data).bind realText? with
    | some x => .ok x
    | none => refuse "float_parsing"
  | _ => refuse "float_type"

end ChatFlow.Schema
