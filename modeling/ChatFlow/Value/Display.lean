import ChatFlow.Value.Basic
import ChatFlow.Text.Quoted
import ChatFlow.Text.Search

/-!
# Display of values

The written form of a value as a literal: quoted text, lists in brackets, tuples in parentheses,
maps in braces. `Value.show?` is the plain text of a value: text as it is, anything else as a
literal.
-/

namespace ChatFlow

namespace Number

/-- The literal of a number. -/
def literal : Number → Except Fault String
  | .int n => intText? n
  | .double x => .ok x.text

end Number

namespace Value

/-- Literals of a sequence between brackets. -/
def bracketed (opening closing : Char) (parts : List (List Char)) : List Char :=
  opening :: joinWith [',', ' '] parts ++ [closing]

mutual

/-- **The literal of a value.** -/
def literal : Value → Except Fault (List Char)
  | .null => .ok "None".toList
  | .bool b => .ok (if b then "True" else "False").toList
  | .number n => n.literal.map String.toList
  | .text s => .ok (quoteText s.toList)
  | .bytes data => .ok (quoteBytes data)
  | .list items => do return bracketed '[' ']' (← literals items)
  | .tuple items => do
    let parts ← literals items
    match parts with
    | [one] => return '(' :: one ++ [',', ')']
    | _ => return bracketed '(' ')' parts
  | .object fields => do return bracketed '\x7b' '\x7d' (← entryLiterals fields)

/-- Literals of the items of a sequence. -/
def literals : List Value → Except Fault (List (List Char))
  | [] => .ok []
  | v :: rest => do
    let first ← literal v
    return first :: (← literals rest)

/-- Literals of the entries of a map. -/
def entryLiterals : List (String × Value) → Except Fault (List (List Char))
  | [] => .ok []
  | (key, v) :: rest => do
    let value ← literal v
    let others ← entryLiterals rest
    return (quoteText key.toList ++ ':' :: ' ' :: value) :: others

end

/-- **The plain text of a value.** -/
def show? : Value → Except Fault String
  | .text s => .ok s
  | v => (literal v).map String.ofList

end Value

end ChatFlow
