import ChatFlow.Chat.Event
import ChatFlow.Template.Path
import ChatFlow.Value.Loose
import ChatFlow.World

/-!
# Templates

Text of a workflow names values between braces. They are filled in one kind after another:

1. what is known of the message and the clock, and dice;
2. the captures of the trigger, as `$1`, `$2` and so on;
3. the variables of the run;
4. stored values of the user, as `storage.` and the key.

What no kind knows stays as it is written. `renderJson` goes on to fill in paths into the response
of the last web call.
-/

namespace ChatFlow

/-- **What a run is about**: the message, and its text. -/
structure Occasion where
  /-- the message -/
  event : Event
  /-- its text as the workflow sees it -/
  text : String

namespace Template

/-! ## Filling in -/

/-- A name between braces and the text for it. -/
abbrev Entry := List Char × List Char

/-- A name between braces. -/
def braced (name : List Char) : List Char := '\x7b' :: name ++ ['\x7d']

/-- An entry for a name. -/
def entry (name value : String) : Entry := (braced name.toList, value.toList)

/-- **Entries filled into a template**, one after another. -/
def fill (entries : List Entry) (template : List Char) : List Char :=
  entries.foldl (fun s e => replaceAll e.1 e.2 s) template

/-! ## Names between braces -/

/-- A piece of text: a character of its own, or a name between braces. -/
inductive Piece where
  /-- a character -/
  | char (c : Char)
  /-- a name -/
  | hole (name : List Char)
  deriving DecidableEq, Repr

/-- The name at the head of a text that follows an opening. -/
def hole? (opening s : List Char) : Option (List Char) := do
  let rest ← dropLeading? opening s
  let name := rest.takeWhile (· ≠ '\x7d')
  if name.isEmpty || name.length = rest.length then none else some name

/-- The pieces of a text. The count says how many characters are still to be skipped. -/
def piecesAux (opening : List Char) : List Char → Nat → List Piece
  | [], _ => []
  | _ :: s, skip + 1 => piecesAux opening s skip
  | c :: s, 0 =>
    match hole? opening (c :: s) with
    | some name => .hole name :: piecesAux opening s (opening.length + name.length)
    | none => .char c :: piecesAux opening s 0

/-- **The pieces of a text** whose names follow an opening. -/
def pieces (opening s : List Char) : List Piece := piecesAux opening s 0

/-- Pieces put together again, names replaced. -/
def join (value : List Char → Except Fault (List Char)) : List Piece → Except Fault (List Char)
  | [] => .ok []
  | .char c :: rest => do return c :: (← join value rest)
  | .hole name :: rest => do
    let v ← value name
    return v ++ (← join value rest)

/-! ## What is filled in -/

/-- The days of the week, Sunday first. -/
def dayNames : List String := ["周日", "周一", "周二", "周三", "周四", "周五", "周六"]

/-- **What is known of the message and the clock.** -/
def builtins (o : Occasion) (zone : Zone) (now : Moment) : Except Fault (List Entry) := do
  let seconds ← (Number.double (← now.timestamp zone)).toInteger
  return [
    entry "user_id" o.event.userId,
    entry "group_id" (o.event.groupId.getD ""),
    entry "message_id" (o.event.messageId.getD ""),
    entry "content" o.text,
    entry "message" o.text,
    entry "date" now.dateText,
    entry "today" now.dateText,
    entry "time" now.timeText,
    entry "datetime" now.dateTimeText,
    entry "timestamp" (intText seconds),
    entry "year" (toString now.year),
    entry "month" (toString now.month),
    entry "day" (toString now.day),
    entry "hour" (toString now.hour),
    entry "minute" (toString now.minute),
    entry "weekday" (toString now.weekday),
    entry "weekday_cn" (dayNames.getD now.weekday ""),
    entry "at_user" ("[CQ:at,qq=" ++ o.event.userId ++ "]")]

/-- The dice of a template and their sides. -/
def diceNames : List (String × Nat) :=
  [("random", 100), ("random100", 100), ("random10", 10), ("random6", 6)]

/-- **The dice that a template names**, each thrown once. -/
def dice (template : List Char) : List (String × Nat) → Act World (List Entry)
  | [] => return []
  | (name, sides) :: rest => do
    if occursIn (braced name.toList) template then
      let n ← World.die sides
      let others ← dice template rest
      return entry name (toString n) :: others
    else dice template rest

/-- The text of a capture. -/
def captureText : Value → Except Fault (List Char)
  | .text s => .ok s.toList
  | v => if v.present then
      .error (.wrongType ("replace() argument 2 must be str, not " ++ v.kindName))
    else .ok []

/-- Captures from a position on. -/
def capturesFrom : Nat → List Value → Except Fault (List Entry)
  | _, [] => .ok []
  | i, v :: rest => do
    let s ← captureText v
    return (braced ('$' :: natDigits i), s) :: (← capturesFrom (i + 1) rest)

/-- The items of a value that is gone through. -/
def iterated : Value → Except Fault (List Value)
  | .list items => .ok items
  | .tuple items => .ok items
  | .text s => .ok (s.toList.map fun c => .text (String.singleton c))
  | .object fields => .ok (fields.map fun e => .text e.1)
  | .bytes data => .ok (data.map fun b => .int b.toNat)
  | v => .error (.wrongType ("'" ++ v.kindName ++ "' object is not iterable"))

/-- **The captures of the trigger.** -/
def captures (context : Table Value) : Except Fault (List Entry) :=
  match context.get? "regex_groups" with
  | some v => if v.present then do capturesFrom 1 (← iterated v) else .ok []
  | none => .ok []

/-- Variables that are never filled in. -/
def reservedNames : List String := ["regex_groups", "api_binary"]

/-- **The variables of the run.** -/
def contextEntries : Table Value → Except Fault (List Entry)
  | [] => .ok []
  | (name, v) :: rest =>
    if reservedNames.contains name then contextEntries rest
    else do
      let s ← v.toText
      return entry name s :: (← contextEntries rest)

/-- What stands before the key of a stored value. -/
def storageOpening : List Char := "\x7bstorage.".toList

/-- The text of a stored value of the user. -/
def storedText (store : Store) (user : String) (key : List Char) : Except Fault (List Char) := do
  let s ← (store.userValue user (String.ofList key) (.text "")).toText
  return s.toList

/-- Stored values filled in. -/
def fillStored (store : Store) (user : String) (s : List Char) : Except Fault (List Char) :=
  join (storedText store user) (pieces storageOpening s)

/-! ## Rendering -/

/-- **A template with everything filled in.** -/
def render (o : Occasion) (template : String) : Act World String := do
  let source := template.toList
  if !source.contains '\x7b' then return template
  else
    let w ← Act.look
    let known ← Act.of (builtins o w.zone w.now)
    let thrown ← dice source diceNames
    let captured ← Act.of (captures w.context)
    let named ← Act.of (contextEntries w.context)
    let s := fill (known ++ thrown ++ captured ++ named) source
    let s ← Act.of (fillStored w.store o.event.userId s)
    return String.ofList s

/-- Names that are never looked up in a response. -/
def passedNames : List String :=
  ["user_id", "group_id", "content", "message", "api_response", "api_status"]

/-- The text for a path into a response. -/
def pathText (body : Value) (name : List Char) : Except Fault (List Char) :=
  if passedNames.contains (String.ofList name) || name.head? = some '$' then
    .ok (braced name)
  else do
    let v ← Path.extract body (trimChars name)
    return (← v.toText).toList

/-- Whether a response has anything to look up. -/
def hasPaths : Value → Except Fault Bool
  | .null => .ok false
  | .object _ => .ok true
  | .list _ => .ok true
  | v => v.truthy

/-- **A template with everything filled in**, and then paths into the last response. -/
def renderJson (o : Occasion) (template : String) : Act World String := do
  let s ← render o template
  let w ← Act.look
  let body := w.valueOf "api_json"
  if ← Act.of (hasPaths body) then
    let filled ← Act.of (join (pathText body) (pieces ['\x7b'] s.toList))
    return String.ofList filled
  else return s

end Template

end ChatFlow
