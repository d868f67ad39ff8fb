import ChatFlow.Number.Basic
import ChatFlow.Table

/-!
# Values

What an authored document, a stored entry or a variable of a running workflow can hold.
-/

namespace ChatFlow

/-- **A value.** A tuple reads like a list and is told apart only where a list is asked for. -/
inductive Value where
  /-- nothing -/
  | null
  /-- a truth value -/
  | bool (b : Bool)
  /-- a number -/
  | number (n : Number)
  /-- text -/
  | text (s : String)
  /-- raw bytes -/
  | bytes (data : List UInt8)
  /-- a list -/
  | list (items : List Value)
  /-- a fixed sequence -/
  | tuple (items : List Value)
  /-- an ordered map with text keys -/
  | object (fields : List (String × Value))
  deriving Repr, Inhabited

namespace Value

/-- An integer value. -/
def int (n : Int) : Value := .number (.int n)

/-- A double value. -/
def double (x : Double) : Value := .number (.double x)

/-- The value under a key of an object. -/
def field? : Value → String → Option Value
  | .object fields, key => Table.get? fields key
  | _, _ => none

/-- Nothing in place of an absent value. -/
def orNull : Option Value → Value
  | some v => v
  | none => .null

/-- The value under a key, nothing where there is none. -/
def get (v : Value) (key : String) : Value := orNull (v.field? key)

/-- The items of a list; none of any other value. -/
def items : Value → List Value
  | .list l => l
  | .tuple l => l
  | _ => []

/-- The entries of a map; none of any other value. -/
def entries : Value → List (String × Value)
  | .object fields => fields
  | _ => []

/-- The text of a text; blank for any other value. -/
def textOrBlank : Value → String
  | .text s => s
  | _ => ""

/-- The name of the kind of value, as wordings of faults use it. -/
def kindName : Value → String
  | .null => "NoneType"
  | .bool _ => "bool"
  | .number (.int _) => "int"
  | .number (.double _) => "float"
  | .text _ => "str"
  | .bytes _ => "bytes"
  | .list _ => "list"
  | .tuple _ => "tuple"
  | .object _ => "dict"

/-- **Presence**: neither nothing, false, zero nor empty. -/
def present : Value → Bool
  | .null => false
  | .bool b => b
  | .number n => !n.isZero
  | .text s => s ≠ ""
  | .bytes data => !data.isEmpty
  | .list items => !items.isEmpty
  | .tuple items => !items.isEmpty
  | .object fields => !fields.isEmpty

/-- Whether it is the truth value "true". -/
def isTrue : Value → Bool
  | .bool b => b
  | _ => false

end Value

end ChatFlow
