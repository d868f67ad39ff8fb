import ChatFlow.Text.Utf8
import ChatFlow.Value.Basic

/-!
# Plain values

The value as a JSON document can hold it: sequences are lists, bytes are their text, and a number
that is not finite is nothing.

* `Value.plain` — the plain form;
* `Value.allFinite` — whether no number is lost by it.
-/

namespace ChatFlow.Value

/-- A number that is finite, or nothing. -/
def plainNumber : Number → Value
  | .double .nan => .null
  | .double (.infinity _) => .null
  | n => .number n

mutual

/-- **The plain form of a value.** -/
def plain : Value → Value
  | .null => .null
  | .bool b => .bool b
  | .number n => plainNumber n
  | .text s => .text s
  | .bytes data => .text (String.ofList (Utf8.decodeLossy data))
  | .list items => .list (plainItems items)
  | .tuple items => .list (plainItems items)
  | .object fields => .object (plainFields fields)

/-- The plain forms of items. -/
def plainItems : List Value → List Value
  | [] => []
  | v :: rest => plain v :: plainItems rest

/-- The plain forms of entries. -/
def plainFields : List (String × Value) → List (String × Value)
  | [] => []
  | (key, v) :: rest => (key, plain v) :: plainFields rest

end

mutual

/-- **Whether all numbers of a value are finite.** -/
def allFinite : Value → Bool
  | .number (.double .nan) => false
  | .number (.double (.infinity _)) => false
  | .list items | .tuple items => allFiniteItems items
  | .object fields => allFiniteFields fields
  | _ => true

/-- Whether all numbers of items are finite. -/
def allFiniteItems : List Value → Bool
  | [] => true
  | v :: rest => allFinite v && allFiniteItems rest

/-- Whether all numbers of entries are finite. -/
def allFiniteFields : List (String × Value) → Bool
  | [] => true
  | (_, v) :: rest => allFinite v && allFiniteFields rest

end

end ChatFlow.Value
