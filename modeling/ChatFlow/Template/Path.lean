import ChatFlow.Number.Numeral
import ChatFlow.Text.Search
import ChatFlow.Value.Basic

/-!
# Paths into values

A path such as `a.b[0].c` names a place in a value: parts between points are keys of maps or
positions of lists, and a part can carry a position in brackets. Where nothing is, the empty text
is.
-/

namespace ChatFlow.Path

/-- **One part of a path**: a key, and a position in brackets. -/
structure Part where
  /-- the key -/
  key : List Char
  /-- digits of the position -/
  index : Option (List Char)
  deriving DecidableEq, Repr

/-- The position between brackets at the end of a part; a line break may follow. -/
def bracket? (s : List Char) : Option (List Char) :=
  let digits := s.takeWhile isDecimal
  if digits.isEmpty then none
  else match s.dropWhile isDecimal with
    | [']'] | [']', '\n'] => some digits
    | _ => none

/-- **The part that text writes**, unless it is malformed. -/
def Part.ofText? (s : List Char) : Option Part :=
  let key := s.takeWhile (· ≠ '[')
  if key.isEmpty then none
  else match s.dropWhile (· ≠ '[') with
    | [] => some ⟨key, none⟩
    | _ :: rest => (bracket? rest).map fun digits => ⟨key, some digits⟩

/-- The position that a key of digits names. Digits that are not decimal name none. -/
def position (key : List Char) : Except Fault Nat :=
  if key.all isDecimal then (Numeral.integer false key).map Int.toNat
  else .error (.notNumeral (String.ofList key))

/-- The value under a key. -/
def child (v : Value) (key : List Char) : Except Fault Value :=
  match v with
  | .object fields => .ok (Value.orNull (Table.get? fields (String.ofList key)))
  | .list items =>
    if !key.isEmpty && key.all isDigit then do
      let i ← position key
      return items.getD i .null
    else .ok .null
  | _ => .ok .null

/-- The item at a position. -/
def item (v : Value) (digits : List Char) : Except Fault Value := do
  let i ← position digits
  match v with
  | .list items => return items.getD i .null
  | _ => return .null

/-- The value that a part leads to. -/
def step (v : Value) (part : Part) : Except Fault Value := do
  let v ← child v part.key
  match part.index with
  | some digits => item v digits
  | none => return v

/-- The value at the end of a path. -/
def walk (v : Value) : List (List Char) → Except Fault Value
  | [] => .ok (match v with
    | .null => .text ""
    | v => v)
  | s :: rest =>
    match Part.ofText? s with
    | none => .ok (.text "")
    | some part => do walk (← step v part) rest

/-- **The value that a path names** within a value; blank text where it leads nowhere. -/
def extract (v : Value) (path : List Char) : Except Fault Value := walk v (splitOn ['.'] path)

end ChatFlow.Path
