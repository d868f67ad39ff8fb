import ChatFlow.Pattern.Basic
import ChatFlow.Number.Numeral
import ChatFlow.Json.Reader

/-!
# Reading patterns

`Pattern.parse` reads the written form of a pattern. Most broken patterns are simply malformed; a
few break a limit instead, which is a fault of its own:

* a repetition count of `2 ^ 32 - 1` or more, or with more than 4300 digits;
* an escaped code of `2 ^ 31` or more;
* the options `a` and `u` switched on for the whole pattern.

A character may be told by its name; which characters have names is known to the runtime, so the reader
is given a table of them. A name that is not in it is malformed.

Also malformed are, among others, a look behind of no fixed width, options for the whole pattern
anywhere but at its start, and a repetition of an anchor or of another repetition.
-/

namespace ChatFlow.Pattern

/-- **Why a pattern is refused.** -/
inductive Refusal where
  /-- the text is no pattern -/
  | malformed
  /-- a limit is broken -/
  | fault (cause : Fault)
  deriving DecidableEq, Repr

/-- **A read pattern.** -/
structure Compiled where
  /-- the tree -/
  node : Node
  /-- how many groups capture -/
  groups : Nat
  deriving DecidableEq, Repr, Inhabited

/-- One piece of a written pattern. -/
inductive Piece where
  /-- a character -/
  | plain (c : Char)
  /-- a character after a backslash -/
  | escaped (c : Char)
  /-- a backslash with nothing after it -/
  | broken
  deriving DecidableEq, Repr

/-- The pieces of a text. -/
def pieces : List Char → List Piece
  | [] => []
  | ['\\'] => [.broken]
  | '\\' :: c :: s => .escaped c :: pieces s
  | c :: s => .plain c :: pieces s

/-- Options of a pattern. -/
structure Options where
  /-- letters compare without case -/
  ignoreCase : Bool
  /-- anchors meet every line -/
  multiline : Bool
  /-- the point meets line feeds -/
  dotAll : Bool
  /-- white space and comments are skipped -/
  verbose : Bool
  /-- classes hold ASCII characters only -/
  ascii : Bool
  /-- classes hold all characters, asked for by name -/
  full : Bool
  /-- no repetitions -/
  template : Bool
  deriving DecidableEq, Repr

/-- No options. -/
def Options.none : Options := ⟨false, false, false, false, false, false, false⟩

/-- Both options. -/
def Options.union (a b : Options) : Options :=
  ⟨a.ignoreCase || b.ignoreCase, a.multiline || b.multiline, a.dotAll || b.dotAll,
    a.verbose || b.verbose, a.ascii || b.ascii, a.full || b.full, a.template || b.template⟩

/-- Whether two sets of options share one. -/
def Options.overlaps (a b : Options) : Bool :=
  (a.ignoreCase && b.ignoreCase) || (a.multiline && b.multiline) || (a.dotAll && b.dotAll) ||
    (a.verbose && b.verbose)

/-- Options inside a group that switches some on and some off. -/
def Options.scoped (env on off : Options) : Options :=
  { ignoreCase := (env.ignoreCase || on.ignoreCase) && !off.ignoreCase
    multiline := (env.multiline || on.multiline) && !off.multiline
    dotAll := (env.dotAll || on.dotAll) && !off.dotAll
    verbose := (env.verbose || on.verbose) && !off.verbose
    ascii := if on.ascii || on.full then on.ascii else env.ascii
    full := env.full
    template := env.template }

/-- The option of a letter. -/
def Options.ofLetter? (c : Char) : Option Options :=
  match c with
  | 'i' => some { Options.none with ignoreCase := true }
  | 'm' => some { Options.none with multiline := true }
  | 's' => some { Options.none with dotAll := true }
  | 'x' => some { Options.none with verbose := true }
  | 'a' => some { Options.none with ascii := true }
  | 'u' => some { Options.none with full := true }
  | 't' => some { Options.none with template := true }
  | _ => Option.none

/-- How characters compare under the options. -/
def Options.rule (env : Options) : CaseRule :=
  if env.ignoreCase then (if env.ascii then .ascii else .folded) else .exact

/-- **How many characters a piece takes**: at least, and at most where there is a bound. -/
structure Width where
  /-- at least -/
  low : Nat
  /-- at most -/
  high : Option Nat
  deriving DecidableEq, Repr

namespace Width

/-- No characters. -/
def none : Width := ⟨0, some 0⟩

/-- One character. -/
def one : Width := ⟨1, some 1⟩

/-- One piece after the other. -/
def add (a b : Width) : Width :=
  ⟨a.low + b.low, match a.high, b.high with
    | some x, some y => some (x + y)
    | _, _ => Option.none⟩

/-- One piece or the other. -/
def join (a b : Width) : Width :=
  ⟨min a.low b.low, match a.high, b.high with
    | some x, some y => some (max x y)
    | _, _ => Option.none⟩

/-- A repeated piece. -/
def times (w : Width) (least : Nat) (most : Option Nat) : Width :=
  ⟨w.low * least, match most, w.high with
    | some n, some h => some (n * h)
    | some 0, Option.none => some 0
    | Option.none, some 0 => some 0
    | _, _ => Option.none⟩

/-- Whether it is one number a look behind can go back by. -/
def isFixed (w : Width) : Bool := w.high == some w.low && w.low < Nat.pow 2 32

end Width

/-- **The characters that have names**, as an escape finds them. The table is the runtime's. -/
abbrev CharNames := String → Option Char

/-- What has been read and what is ahead. -/
structure Reading where
  /-- pieces ahead -/
  ahead : List Piece
  /-- widths of the groups so far; an open group has none -/
  widths : List (Option Width)
  /-- groups with names -/
  names : List (String × Nat)
  /-- options of the whole pattern -/
  options : Options
  /-- inside a look behind, the first group number that it may not refer to -/
  behind : Option Nat
  /-- groups that conditions name by number -/
  asked : List Nat
  /-- a look behind of no fixed width, or a repetition where none may be -/
  rejected : Bool
  /-- the characters that have names -/
  charNames : CharNames

/-- A step of reading a pattern. -/
abbrev ReadM := StateT Reading (Except Refusal)

/-- The text is no pattern. -/
def malformed {α : Type} : ReadM α := throw .malformed

/-- The next piece. -/
def peek : ReadM (Option Piece) := do return (← get).ahead.head?

/-- Goes on with these pieces; a lone backslash may not be next. -/
def goOn (ahead : List Piece) : ReadM Unit :=
  if ahead.head? = some .broken then malformed else modify fun r => { r with ahead := ahead }

/-- Takes the next piece. -/
def take : ReadM (Option Piece) := do
  let r ← get
  goOn r.ahead.tail
  return r.ahead.head?

/-- Takes the character if it is next. -/
def accept (c : Char) : ReadM Bool := do
  if (← peek) = some (.plain c) then
    let _ ← take
    return true
  return false

/-- Takes the next piece, which must be there. -/
def takePiece : ReadM Piece := do
  match ← take with
  | some p => return p
  | none => malformed

/-- The character must be next. -/
def expect (c : Char) : ReadM Unit := do
  unless ← accept c do malformed

/-- Takes at most so many characters of a class. -/
def takeWhileIn (ok : Char → Bool) : Nat → ReadM (List Char)
  | 0 => return []
  | n + 1 => do
    match ← peek with
    | some (.plain c) =>
      if ok c then
        let _ ← take
        return c :: (← takeWhileIn ok n)
      return []
    | _ => return []

/-- Digits, as many as there are. -/
def takeDigits : ReadM (List Char) := do
  takeWhileIn Json.isAsciiDigit (← get).ahead.length

/-- The pieces up to a closing character, as text, and the pieces after it. -/
def upTo (mark : Char) : List Piece → Option (List Char × List Piece)
  | [] | .broken :: _ => none
  | .plain c :: rest =>
    if c = mark then some ([], rest) else (upTo mark rest).map fun (s, after) => (c :: s, after)
  | .escaped c :: rest => (upTo mark rest).map fun (s, after) => ('\\' :: c :: s, after)

/-- A text up to a closing character; it may not be empty. -/
def takeUpTo (mark : Char) : ReadM (List Char) := do
  match upTo mark (← get).ahead with
  | some (s, after) =>
    goOn after
    if s.isEmpty then malformed
    return s
  | none => malformed

/-- The pieces after a comment in the text. -/
def pastLine : List Piece → List Piece
  | [] => []
  | .plain '\n' :: rest => rest
  | _ :: rest => pastLine rest

/-- Whether a lone backslash ends these pieces before their first line feed. -/
def brokenLine : List Piece → Bool
  | [] => false
  | .plain '\n' :: _ => false
  | .broken :: _ => true
  | _ :: rest => brokenLine rest

/-! ## Escapes -/

/-- One read piece of a sequence. -/
structure Item where
  /-- its tree -/
  node : Node
  /-- its width -/
  width : Width
  /-- an anchor, which cannot be repeated -/
  isAnchor : Bool
  /-- a repetition, which cannot be repeated -/
  isLoop : Bool

/-- An item that may be repeated. -/
def Item.plain (node : Node) (width : Width) : Item := ⟨node, width, false, false⟩

/-- An anchor. -/
def Item.ofAnchor (place : Anchor) : Item := ⟨.anchor place, .none, true, false⟩

/-- One character. -/
def Item.ofCode (env : Options) (n : Nat) : Item := .plain (.one (.code env.rule false n)) .one

/-- The value of digits in a base. -/
def baseValue (base : Nat) (digits : List Char) : Nat :=
  digits.foldl (fun n c => n * base + (Json.hexValue? c).getD 0) 0

/-- An octal digit. -/
def isOctal (c : Char) : Bool := '0' ≤ c && c ≤ '7'

/-- Exactly so many hexadecimal digits. -/
def takeHex (width : Nat) : ReadM Nat := do
  let digits ← takeWhileIn (fun c => (Json.hexValue? c).isSome) width
  if digits.length = width then return baseValue 16 digits else malformed

/-- A code of eight digits. -/
def takeLongCode : ReadM Nat := do
  let n ← takeHex 8
  if Nat.pow 2 31 ≤ n then throw (.fault .patternRange)
  if 0x10FFFF < n then malformed
  return n

/-- The code of a character by its name, which stands between braces. -/
def takeNamedCode : ReadM Nat := do
  expect '\x7b'
  let name ← takeUpTo '\x7d'
  match (← get).charNames (String.ofList name) with
  | some c => return c.toNat
  | none => malformed

/-- The character of an escape that means the same everywhere. -/
def controlEscape? (c : Char) : Option Nat :=
  match c with
  | 'a' => some 7
  | 'f' => some 12
  | 'n' => some 10
  | 'r' => some 13
  | 't' => some 9
  | 'v' => some 11
  | '\\' => some 92
  | _ => none

/-- The class of an escape, and whether it is the complement. -/
def classEscape? (c : Char) : Option (CharClass × Bool) :=
  match c with
  | 'd' => some (.digit, false)
  | 'D' => some (.digit, true)
  | 's' => some (.space, false)
  | 'S' => some (.space, true)
  | 'w' => some (.word, false)
  | 'W' => some (.word, true)
  | _ => none

/-- The character of an escape with a code in it, where the letter begins one. -/
def codeEscape? (c : Char) : ReadM (Option Nat) :=
  match c with
  | 'x' => do return some (← takeHex 2)
  | 'u' => do return some (← takeHex 4)
  | 'U' => do return some (← takeLongCode)
  | 'N' => do return some (← takeNamedCode)
  | _ => return none

/-- An octal code of at most three digits, the first given. -/
def takeOctal (c : Char) : ReadM Nat := do
  let n := baseValue 8 (c :: (← takeWhileIn isOctal 2))
  if 0o377 < n then malformed
  return n

/-- A letter or digit without a meaning of its own may not be escaped. -/
def otherEscape (c : Char) : ReadM Nat :=
  if c.toNat < 128 && c.isAlphanum then malformed else return c.toNat

/-- An escape inside a set. -/
def setEscape (env : Options) (c : Char) : ReadM SetItem := do
  if c = 'b' then return .code 8
  match classEscape? c with
  | some (kind, negated) => return .cls kind env.ascii negated
  | none =>
    match controlEscape? c with
    | some n => return .code n
    | none =>
      match ← codeEscape? c with
      | some n => return .code n
      | none => return .code (← if isOctal c then takeOctal c else otherEscape c)

/-- A group may be referred to when it is closed, and from a look behind only when it was opened
before that. -/
def checkReference (index : Nat) : ReadM Unit := do
  let r ← get
  let closed := match r.widths[index - 1]? with
    | some (some _) => true
    | _ => false
  match r.behind with
  | none => return
  | some limit =>
    unless closed do malformed
    if limit ≤ index then malformed

/-- A reference to the text of a group. -/
def reference (env : Options) (index : Nat) : ReadM Item := do
  match (← get).widths[index - 1]? with
  | some (some width) =>
    checkReference index
    return .plain (.backref env.rule index) width
  | _ => malformed

/-- An escape that begins with a digit other than zero: three octal digits are a code, other
numbers refer to a group. -/
def digitEscape (env : Options) (c : Char) : ReadM Item := do
  match ← peek with
  | some (.plain d) =>
    if Json.isAsciiDigit d then
      let _ ← take
      if isOctal c && isOctal d then
        match ← peek with
        | some (.plain e) =>
          if isOctal e then
            let _ ← take
            let n := baseValue 8 [c, d, e]
            if 0o377 < n then malformed
            return .ofCode env n
        | _ => pure ()
      reference env (baseValue 10 [c, d])
    else reference env (baseValue 10 [c])
  | _ => reference env (baseValue 10 [c])

/-- An escape outside sets. -/
def escape (env : Options) (c : Char) : ReadM Item := do
  match c with
  | 'A' => return .ofAnchor .start
  | 'Z' => return .ofAnchor .textStop
  | 'b' => return .ofAnchor (.boundary env.ascii false)
  | 'B' => return .ofAnchor (.boundary env.ascii true)
  | _ =>
    match classEscape? c with
    | some (kind, negated) =>
      return .plain (.one (.set env.rule false [.cls kind env.ascii negated])) .one
    | none =>
      match controlEscape? c with
      | some n => return .ofCode env n
      | none =>
        match ← codeEscape? c with
        | some n => return .ofCode env n
        | none =>
          if c = '0' then return .ofCode env (← takeOctal c)
          else if Json.isAsciiDigit c then digitEscape env c
          else return .ofCode env (← otherEscape c)

/-! ## Sets -/

/-- One end of a range, or a member by itself. -/
def setMember (env : Options) : Piece → ReadM SetItem
  | .plain c => return .code c.toNat
  | .escaped c => setEscape env c
  | .broken => malformed

/-- The members of a set up to its closing bracket, in reverse. -/
def setItems (env : Options) : Nat → List SetItem → ReadM (List SetItem)
  | 0, _ => malformed
  | fuel + 1, items => do
    let piece ← takePiece
    if piece = .plain ']' && !items.isEmpty then return items
    let first ← setMember env piece
    if ← accept '-' then
      let last ← takePiece
      if last = .plain ']' then return .code '-'.toNat :: first :: items
      match first, ← setMember env last with
      | .code low, .code high =>
        if high < low then malformed
        setItems env fuel (.range low high :: items)
      | _, _ => malformed
    else setItems env fuel (first :: items)

/-- A set whose opening bracket has been read. -/
def charSet (env : Options) : ReadM Item := do
  let negated ← accept '^'
  let items ← setItems env ((← get).ahead.length + 1) []
  let test := match items.reverse.eraseDups with
    | [.code n] => CharTest.code env.rule negated n
    | items => CharTest.set env.rule negated items
  return .plain (.one test) .one

/-! ## Repetitions -/

/-- A count of a repetition. -/
def countOf (digits : List Char) : ReadM Nat := do
  if Number.digitLimit < digits.length then throw (.fault .digitLimit)
  let n := baseValue 10 digits
  if Nat.pow 2 32 - 1 ≤ n then throw (.fault .patternRange)
  return n

/-- The counts of a repetition whose opening brace has been read; without a closing brace the
opening one is a character, and nothing is taken. -/
def braces : ReadM (Option (Nat × Option Nat)) := do
  let start ← get
  if start.ahead.head? = some (.plain '\x7d') then return none
  let low ← takeDigits
  let high ← if ← accept ',' then takeDigits else pure low
  if ← accept '\x7d' then
    let least ← if low.isEmpty then pure 0 else countOf low
    let most ← if high.isEmpty then pure none else some <$> countOf high
    match most with
    | some n => if n < least then malformed
    | none => pure ()
    return some (least, most)
  set start
  return none

/-- The mark after the counts of a repetition. -/
def takeGreed : ReadM Greed := do
  match ← peek with
  | some (.plain '?') =>
    let _ ← take
    return .least
  | some (.plain '+') =>
    let _ ← take
    return .only
  | _ => return .most

/-- The item repeated, with the mark after the counts that says how. -/
def repeated (item : Item) (least : Nat) (most : Option Nat) : ReadM Item := do
  if item.isAnchor || item.isLoop then malformed
  let greed ← takeGreed
  modify fun r => { r with rejected := r.rejected || r.options.template }
  return ⟨.loop greed least most item.node, item.width.times least most, false, true⟩

/-- The items, in reverse, with the last one repeated. -/
def repeatLast (items : List Item) (least : Nat) (most : Option Nat) : ReadM (List Item) := do
  match items with
  | [] => malformed
  | item :: rest => return (← repeated item least most) :: rest

/-! ## Groups -/

/-- A letter of an option. -/
def optionOf : Piece → ReadM Options
  | .plain c =>
    match Options.ofLetter? c with
    | some o => return o
    | none => malformed
  | _ => malformed

/-- Options switched on, and the piece that ends them. -/
def optionsOn : Nat → Options → Piece → ReadM (Options × Piece)
  | 0, _, _ => malformed
  | fuel + 1, on, piece => do
    let on := on.union (← optionOf piece)
    if on.ascii && on.full then malformed
    let piece ← takePiece
    if piece = .plain ')' || piece = .plain '-' || piece = .plain ':' then return (on, piece)
    optionsOn fuel on piece

/-- Options switched off, up to the colon. -/
def optionsOff : Nat → Options → Piece → ReadM Options
  | 0, _, _ => malformed
  | fuel + 1, off, piece => do
    let off := off.union (← optionOf piece)
    if off.ascii || off.full then malformed
    let piece ← takePiece
    if piece = .plain ':' then return off
    optionsOff fuel off piece

/-- Options at the head of a group: for the whole pattern (nothing), or those switched on and off
in the group. -/
def groupOptions (piece : Piece) : ReadM (Option (Options × Options)) := do
  let fuel := (← get).ahead.length + 1
  let (on, ending) ← if piece = .plain '-' then pure (Options.none, piece)
    else optionsOn fuel Options.none piece
  if ending = .plain ')' then
    modify fun r => { r with options := r.options.union on }
    return none
  if on.template then malformed
  let off ← if ending = .plain '-' then optionsOff fuel Options.none (← takePiece)
    else pure Options.none
  if off.template || on.overlaps off then malformed
  return some (on, off)

/-- Opens a group; a name may be given once. -/
def openGroup (name : Option (List Char)) : ReadM Nat := do
  let r ← get
  let index := r.widths.length + 1
  let names ← match name with
    | none => pure r.names
    | some s =>
      let key := String.ofList s
      if (r.names.find? fun e => e.1 = key).isSome then malformed
      pure ((key, index) :: r.names)
  set { r with widths := r.widths ++ [none], names := names }
  return index

/-- Closes a group. -/
def closeGroup (index : Nat) (width : Width) : ReadM Unit :=
  modify fun r => { r with widths := r.widths.set (index - 1) (some width) }

/-- The group of a name. -/
def namedGroup (name : List Char) : ReadM Nat := do
  unless isName name do malformed
  match (← get).names.find? fun e => e.1 = String.ofList name with
  | some (_, index) => return index
  | none => malformed

/-- A number as typed by hand: white space around it, a sign and single underscores between digits
are passed over. -/
def looseNumber? (s : List Char) : Option Nat :=
  let (negative, body) := Numeral.sign (trimChars s)
  let rec go : List Char → Bool → Nat → Nat → Option (Nat × Nat)
    | [], afterDigit, n, count => if afterDigit then some (n, count) else none
    | c :: rest, afterDigit, n, count =>
      match decimalValue? c with
      | some d => go rest true (n * 10 + d) (count + 1)
      | none => if c = '_' && afterDigit then go rest false n count else none
  match go body false 0 0 with
  | some (n, count) =>
    if Number.digitLimit < count || (negative && n ≠ 0) then none else some n
  | none => none

/-- The group that a condition asks for, by name or number. -/
def conditionGroup (s : List Char) : ReadM Nat := do
  if isName s then namedGroup s
  else match looseNumber? s with
    | none | some 0 => malformed
    | some n =>
      if 1073741823 ≤ n then malformed
      modify fun r => { r with asked := n :: r.asked }
      return n

/-- Items one after the other. -/
def chain : List Item → Item
  | [] => .plain .empty .none
  | [item] => item
  | item :: rest =>
    let tail := chain rest
    .plain (.seq item.node tail.node) (item.width.add tail.width)

/-- White space between pieces. -/
def isFiller (c : Char) : Bool := c = ' ' || (9 ≤ c.toNat && c.toNat ≤ 13)

/-- What the reader does with a group after its opening parenthesis. -/
inductive GroupKind where
  /-- captures, perhaps under a name -/
  | capture (name : Option (List Char))
  /-- only encloses -/
  | plain (env : Options)
  /-- is not tried again -/
  | atomic
  /-- looks ahead or behind -/
  | look (behind negated : Bool)
  /-- asks whether a group has matched -/
  | condition (index : Nat)
  /-- is complete -/
  | done (item : Option Item)

/-- The kind of a look, its direction given. -/
def lookKind (behind : Bool) : Piece → ReadM GroupKind
  | .plain '=' => return .look behind false
  | .plain '!' => return .look behind true
  | _ => malformed

/-- The kind of a group whose opening parenthesis has been read. `atStart` tells whether options
for the whole pattern may stand here. -/
def groupKind (env : Options) (atStart : Bool) : ReadM GroupKind := do
  unless ← accept '?' do return .capture none
  match ← takePiece with
  | .plain 'P' =>
    match ← takePiece with
    | .plain '<' =>
      let name ← takeUpTo '>'
      unless isName name do malformed
      return .capture (some name)
    | .plain '=' =>
      let item ← reference env (← namedGroup (← takeUpTo ')'))
      return .done (some item)
    | _ => malformed
  | .plain ':' => return .plain env
  | .plain '>' => return .atomic
  | .plain '=' => return .look false false
  | .plain '!' => return .look false true
  | .plain '<' => lookKind true (← takePiece)
  | .plain '#' =>
    match upTo ')' (← get).ahead with
    | some (_, after) =>
      goOn after
      return .done none
    | none => malformed
  | .plain '(' =>
    let index ← conditionGroup (← takeUpTo ')')
    checkReference index
    return .condition index
  | piece =>
    match ← groupOptions piece with
    | none => if atStart then return .done none else malformed
    | some (on, off) => return .plain (env.scoped on off)

mutual

/-- Alternatives up to a closing parenthesis or the end. `top` tells whether they are the whole
pattern and `first` whether nothing of it has been read. -/
def alternatives : Nat → Options → Bool → Bool → ReadM Item
  | 0, _, _, _ => malformed
  | fuel + 1, env, top, first => do
    let item ← sequence fuel env top first []
    if ← accept '|' then
      let options := (← get).options
      let env := if top then options else env
      let others ← alternatives fuel env top false
      return .plain (.alt item.node others.node) (item.width.join others.width)
    return item

/-- Items up to a bar, a closing parenthesis or the end, those already read in reverse. -/
def sequence : Nat → Options → Bool → Bool → List Item → ReadM Item
  | 0, _, _, _, _ => malformed
  | fuel + 1, env, top, first, items => do
    match ← peek with
    | none | some (.plain '|') | some (.plain ')') =>
      let whole := chain items.reverse
      return .plain whole.node whole.width
    | some .broken => malformed
    | some (.escaped c) =>
      let _ ← take
      let item ← escape env c
      sequence fuel env top first (item :: items)
    | some (.plain c) =>
      let _ ← take
      if env.verbose && isFiller c then sequence fuel env top first items
      else if env.verbose && c = '#' then
        let ahead := (← get).ahead
        if brokenLine ahead then malformed
        goOn (pastLine ahead)
        sequence fuel env top first items
      else
        match c with
        | '[' =>
          let item ← charSet env
          sequence fuel env top first (item :: items)
        | '*' => sequence fuel env top first (← repeatLast items 0 none)
        | '+' => sequence fuel env top first (← repeatLast items 1 none)
        | '?' => sequence fuel env top first (← repeatLast items 0 (some 1))
        | '\x7b' =>
          match ← braces with
          | some (least, most) => sequence fuel env top first (← repeatLast items least most)
          | none => sequence fuel env top first (.ofCode env c.toNat :: items)
        | '.' => sequence fuel env top first (.plain (.one (.any env.dotAll)) .one :: items)
        | '^' =>
          let place := if env.multiline then Anchor.lineStart else .start
          sequence fuel env top first (.ofAnchor place :: items)
        | '$' =>
          let place := if env.multiline then Anchor.lineStop else .stop
          sequence fuel env top first (.ofAnchor place :: items)
        | '(' =>
          match ← group fuel env (first && items.isEmpty) with
          | some item => sequence fuel env top first (item :: items)
          | none =>
            let options := (← get).options
            let env := if top then options else env
            sequence fuel env top first items
        | _ => sequence fuel env top first (.ofCode env c.toNat :: items)

/-- A group whose opening parenthesis has been read; comments and options are no item. -/
def group : Nat → Options → Bool → ReadM (Option Item)
  | 0, _, _ => malformed
  | fuel + 1, env, atStart => do
    match ← groupKind env atStart with
    | .done item => return item
    | .capture name =>
      let index ← openGroup name
      let body ← alternatives fuel env false false
      expect ')'
      closeGroup index body.width
      return some (.plain (.group index body.node) body.width)
    | .plain inner =>
      let body ← alternatives fuel inner false false
      expect ')'
      return some (.plain body.node body.width)
    | .atomic =>
      let body ← alternatives fuel env false false
      expect ')'
      return some (.plain (.atomic body.node) body.width)
    | .look behind negated =>
      let outer := (← get).behind
      if behind && outer.isNone then
        modify fun r => { r with behind := some (r.widths.length + 1) }
      let body ← alternatives fuel env false false
      if behind then modify fun r => { r with behind := outer }
      expect ')'
      if behind && !body.width.isFixed then modify fun r => { r with rejected := true }
      let back := if behind then some body.width.low else none
      return some (.plain (.look back negated body.node) .none)
    | .condition index =>
      let whenSet ← sequence fuel env false false []
      let whenUnset ← if ← accept '|' then sequence fuel env false false []
        else pure (.plain .empty .none)
      expect ')'
      return some (.plain (.conditional index whenSet.node whenUnset.node)
        (whenSet.width.join whenUnset.width))

end

/-- The whole pattern, and the checks that come after reading. -/
def whole : ReadM Compiled := do
  let ahead := (← get).ahead
  goOn ahead
  let item ← alternatives (4 * ahead.length + 8) Options.none true true
  let r ← get
  if r.options.ascii && r.options.full then throw (.fault .patternOptions)
  unless r.ahead.isEmpty do malformed
  if r.asked.any fun n => r.widths.length < n then malformed
  if r.rejected then malformed
  return ⟨item.node, r.widths.length⟩

/-- The reading of a text before anything of it is read. -/
def Reading.begun (names : CharNames) (s : List Char) : Reading :=
  ⟨pieces s, [], [], Options.none, none, [], false, names⟩

/-- **Read a pattern.** -/
def parse (names : CharNames) (s : String) : Except Refusal Compiled :=
  (whole.run (.begun names s.toList)).map Prod.fst

end ChatFlow.Pattern
