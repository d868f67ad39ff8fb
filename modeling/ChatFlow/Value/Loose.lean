import ChatFlow.Number.Numeral
import ChatFlow.Json.Writer

/-!
# The forgiving view of values

Workflow data is typed into text boxes, so every consumer reads it the same loose way.

* `Value.toNumber` — blank text is zero, unreadable text is not a number;
* `Value.toText` — the text put into messages: nothing is empty, whole doubles have no point,
  lists are joined with commas, maps are JSON;
* `Value.truthy` — blank text, zero, not-a-number and nothing are false;
* `Value.looseEquals` — `1` equals `"1"` and `true` equals `1`;
* `Value.ofLiteral` — stored text that spells an integer, a decimal or a truth value is kept typed.
-/

namespace ChatFlow.Value

/-- **Numeric view.** -/
def toNumber : Value → Number
  | .null => .int 0
  | .bool b => .int (if b then 1 else 0)
  | .number n => n
  | .text s => Number.ofText s
  | _ => Number.nan

/-- The text of a number in a message. -/
def numberText : Number → Except Fault String
  | .int n => Number.intText? n
  | .double x =>
    match x with
    | .nan => .ok "NaN"
    | .infinity negative => .ok (if negative then "-Infinity" else "Infinity")
    | .finite .. =>
      match x.truncate? with
      | some n => .ok (if x.isInteger && n.natAbs < Nat.pow 10 21 then intText n else x.text)
      | none => .ok x.text

mutual

/-- **Text view.** -/
def toText : Value → Except Fault String
  | .null => .ok ""
  | .bool b => .ok (if b then "true" else "false")
  | .number n => numberText n
  | .text s => .ok s
  | .bytes data => .ok ("[binary " ++ toString data.length ++ " bytes]")
  | .list items => do return ",".intercalate (← itemTexts items)
  | .tuple items => do return ",".intercalate (← itemTexts items)
  | .object fields => Json.write .line (.object fields)

/-- Text views of the items of a list. -/
def itemTexts : List Value → Except Fault (List String)
  | [] => .ok []
  | v :: rest => do
    let first ← toText v
    return first :: (← itemTexts rest)

end

/-- **Truth.** Lists, maps and bytes are true even when empty. -/
def truthy : Value → Except Fault Bool
  | .null => .ok false
  | .bool b => .ok b
  | .number n => n.truthy
  | .text s => .ok (s ≠ "")
  | _ => .ok true

/-- Equality of values that are neither nothing nor truth values: by number when a number meets a
number or text, otherwise by text. -/
def looseEqualsPlain : Value → Value → Except Fault Bool
  | .number a, .number b => .ok (a.equal b)
  | .text a, .text b => .ok (a = b)
  | .number a, .text b => .ok (a.equal (Number.ofText b))
  | .text a, .number b => .ok ((Number.ofText a).equal b)
  | a, b => do
    let x ← toText a
    let y ← toText b
    return x = y

/-- A truth value as its number. -/
def unbool : Value → Value
  | .bool b => .number (.int (if b then 1 else 0))
  | v => v

/-- **Loose equality.** Nothing equals only itself; a truth value beside anything but another one
counts as its number. -/
def looseEquals : Value → Value → Except Fault Bool
  | .null, .null => .ok true
  | .null, _ => .ok false
  | _, .null => .ok false
  | .bool a, .bool b => .ok (a = b)
  | a, b => looseEqualsPlain a.unbool b.unbool

/-- **The typed value of stored text.** -/
def ofLiteral (s : String) : Except Fault Value :=
  let (negative, rest) := match s.toList with
    | '-' :: rest => (true, rest)
    | rest => (false, rest)
  let whole := rest.takeWhile isDecimal
  if whole.isEmpty then .ok (literalWord s)
  else match rest.dropWhile isDecimal with
    | [] => (Numeral.integer negative whole).map Value.int
    | '.' :: places =>
      if !places.isEmpty && places.all isDecimal then
        .ok (.double (Double.ofDecimal negative (Numeral.digitsValue (whole ++ places))
          (-places.length)))
      else .ok (.text s)
    | _ => .ok (.text s)
where
  /-- The truth values, and any other text as itself. -/
  literalWord (s : String) : Value :=
    if s = "true" then .bool true else if s = "false" then .bool false else .text s

/-- A switch of the editor is on when it is true or the text "true". -/
def isFlagSet : Value → Bool
  | .bool b => b
  | .text s => s = "true"
  | _ => false

end ChatFlow.Value
