import ChatFlow.Fault
import ChatFlow.Value.Display
import ChatFlow.Yaml.Scalar

/-!
# Reading YAML

The part of YAML 1.1 that people write settings in: maps and lists by indentation, lists in brackets
and maps in braces, scalars plain or in either quotes, and comments. Keys become text.

A text is refused for one of two causes: a part of it cannot be read, such as a quote that is never
closed, or its parts do not fit together, such as a bracket that is never closed.
-/

namespace ChatFlow.Yaml

/-! ## Places in the text -/

/-- **A place in the text.** -/
structure Place where
  /-- the text from here on -/
  rest : List Char
  /-- how many characters stand before it on its line -/
  column : Nat

/-- Whether a character ends a line. -/
def isBreak (c : Char) : Bool :=
  c = '\n' || c = '\r' || c = '\u0085' || c = '\u2028' || c = '\u2029'

/-- Whether a character ends a word. -/
def isGap (c : Char) : Bool := c = ' ' || c = '\t' || isBreak c

/-- Whether a text ends or goes on with a gap. -/
def gapAhead (s : List Char) : Bool :=
  match s with
  | [] => true
  | c :: _ => isGap c

/-- A place so many characters on, on the same line. -/
def Place.after (p : Place) (count : Nat) : Place := ⟨p.rest.drop count, p.column + count⟩

/-- The place of the next token, past spaces, comments and ends of lines, and whether a line ended
before it. -/
def tokenFrom (ended comment : Bool) : Nat → List Char → Place × Bool
  | column, [] => (⟨[], column⟩, ended)
  | column, c :: rest =>
    if isBreak c then tokenFrom true false 0 rest
    else if comment || c = ' ' then tokenFrom ended comment (column + 1) rest
    else if c = '#' then tokenFrom ended true (column + 1) rest
    else (⟨c :: rest, column⟩, ended)

/-- **The next token**, and whether a line ended before it. -/
def Place.token (p : Place) : Place × Bool := tokenFrom false false p.column p.rest

/-- Whether a colon stands here that parts a key from its value. -/
def Place.atColon (p : Place) : Bool :=
  match p.rest with
  | ':' :: rest => gapAhead rest
  | _ => false

/-- Whether a dash stands here that begins an item. -/
def Place.atDash (p : Place) : Bool :=
  match p.rest with
  | '-' :: rest => gapAhead rest
  | _ => false

/-- Whether a question mark stands here that begins a key. -/
def Place.atQuestion (p : Place) : Bool :=
  match p.rest with
  | '?' :: rest => gapAhead rest
  | _ => false

/-! ## Scalars -/

/-- A scalar, the place after it, and whether it went over the end of a line. -/
structure Scalar where
  /-- its text -/
  text : List Char
  /-- the place after it -/
  after : Place
  /-- whether it is longer than a line -/
  broken : Bool

/-- Signs of lists and maps in brackets. -/
def isFlowSign (c : Char) : Bool := c = ',' || c = '[' || c = ']' || c = '{' || c = '}'

/-- Whether a plain scalar ends before these characters. -/
def plainEnds (flow : Bool) : List Char → Bool
  | [] => true
  | ':' :: rest => gapAhead rest || (flow && (rest.head?.map isFlowSign).getD true)
  | c :: _ => isGap c || (flow && (isFlowSign c || c = '?'))

/-- The word of a plain scalar at the head of a text, and the rest. -/
def plainWord (flow : Bool) : List Char → List Char × List Char
  | [] => ([], [])
  | c :: rest =>
    if plainEnds flow (c :: rest) then ([], c :: rest)
    else
      let (word, after) := plainWord flow rest
      (c :: word, after)

/-- Spaces and ends of lines between two words: how many lines end, what stands there, and the
place after them. Spaces at the ends of lines are dropped. Tabs count as spaces within quotes. -/
def between (tabs : Bool) (lines : Nat) (spaces : List Char) :
    Nat → List Char → Nat × List Char × Place
  | column, [] => (lines, spaces, ⟨[], column⟩)
  | column, c :: rest =>
    if isBreak c then between tabs (lines + 1) [] 0 rest
    else if c = ' ' || (tabs && c = '\t') then between tabs lines (c :: spaces) (column + 1) rest
    else (lines, spaces, ⟨c :: rest, column⟩)

/-- What ends of lines between two words stand for: one for a space, more for one less. -/
def folded (lines : Nat) (spaces : List Char) : List Char :=
  match lines with
  | 0 => spaces
  | 1 => [' ']
  | n + 2 => List.replicate (n + 1) '\n'

/-- A plain scalar from a place on; its further lines stand at the indentation or deeper. -/
def plainFrom (flow : Bool) (indent : Nat) : Nat → Place → Scalar
  | 0, p => ⟨[], p, false⟩
  | fuel + 1, p =>
    let (word, rest) := plainWord flow p.rest
    let stop : Place := ⟨rest, p.column + word.length⟩
    let (lines, spaces, next) := between false 0 [] stop.column rest
    let ends := (lines = 0 && spaces.isEmpty) || (plainWord flow next.rest).1.isEmpty ||
      next.rest.head? = some '#' || (!flow && next.column < indent && 0 < lines)
    if ends then ⟨word, if lines = 0 then next else stop, false⟩
    else
      let more := plainFrom flow indent fuel next
      ⟨word ++ folded lines spaces ++ more.text, more.after, more.broken || 0 < lines⟩

/-- **A plain scalar.** -/
def plain (flow : Bool) (indent : Nat) (p : Place) : Scalar :=
  plainFrom flow indent (p.rest.length + 1) p

/-- Whether a plain scalar can begin here. -/
def plainStarts (flow : Bool) : List Char → Bool
  | [] => false
  | c :: rest =>
    if "?:-".toList.contains c then !gapAhead rest && (c = '-' || !flow)
    else !isGap c && !",[]{}#&*!|>'\"%@\x60".toList.contains c

/-- The character of an escape with one sign. -/
def escaped? : Char → Option Char
  | '0' => some '\x00'
  | 'a' => some '\x07'
  | 'b' => some '\x08'
  | 't' => some '\t'
  | '\t' => some '\t'
  | 'n' => some '\n'
  | 'v' => some '\x0b'
  | 'f' => some '\x0c'
  | 'r' => some '\r'
  | 'e' => some '\x1b'
  | ' ' => some ' '
  | '"' => some '"'
  | '\\' => some '\\'
  | '/' => some '/'
  | 'N' => some '\u0085'
  | '_' => some '\u00a0'
  | 'L' => some '\u2028'
  | 'P' => some '\u2029'
  | _ => none

/-- How many hexadecimal digits follow the sign of an escape. -/
def codeLength? : Char → Option Nat
  | 'x' => some 2
  | 'u' => some 4
  | 'U' => some 8
  | _ => none

/-- The character of hexadecimal digits. -/
def codeChar? (digits : List Char) (count : Nat) : Option Char := do
  let values ← digits.mapM Json.hexValue?
  if values.length = count then some (Char.ofNat (values.foldl (fun n d => n * 16 + d) 0)) else none

/-- The escape after a backslash, and how many characters it has. -/
def escape? (s : List Char) : Option (Char × Nat) :=
  match s with
  | c :: rest =>
    match escaped? c, codeLength? c with
    | some x, _ => some (x, 1)
    | none, some count => (codeChar? (rest.take count) count).map fun x => (x, count + 1)
    | none, none => none
  | [] => none

/-- A scalar in quotes, after the first one. -/
def quotedFrom (quote : Char) : Nat → Bool → List Char → Place → Except SyntaxFault Scalar
  | 0, _, _, _ => .error .unreadable
  | fuel + 1, broken, done, p =>
    match p.rest with
    | [] => .error .unreadable
    | c :: rest =>
      if c = quote then
        if quote = '\'' && rest.head? = some '\'' then
          quotedFrom quote fuel broken ('\'' :: done) (p.after 2)
        else .ok ⟨done.reverse, p.after 1, broken⟩
      else if c = '\\' && quote = '"' then
        match escape? rest with
        | some (x, count) => quotedFrom quote fuel broken (x :: done) (p.after (count + 1))
        | none =>
          if (rest.head?.map isBreak).getD false then
            let (_, _, next) := between true 0 [] p.column rest
            quotedFrom quote fuel true done next
          else .error .unreadable
      else if isGap c then
        let (lines, spaces, next) := between true 0 [] p.column p.rest
        quotedFrom quote fuel (broken || 0 < lines) (folded lines spaces ++ done) next
      else quotedFrom quote fuel broken (c :: done) (p.after 1)

/-- **A scalar in quotes.** -/
def quoted (quote : Char) (p : Place) : Except SyntaxFault Scalar :=
  quotedFrom quote (p.rest.length + 1) false [] (p.after 1)

/-- A scalar, and what it stands for. -/
def scalar (flow : Bool) (indent : Nat) (p : Place) : Except SyntaxFault (Value × Scalar) := do
  match p.rest with
  | '\'' :: _ =>
    let s ← quoted '\'' p
    return (.text (String.ofList s.text), s)
  | '"' :: _ =>
    let s ← quoted '"' p
    return (.text (String.ofList s.text), s)
  | rest =>
    if plainStarts flow rest then
      let s := plain flow indent p
      return (resolve (String.ofList s.text), s)
    else throw .unreadable

/-- A key as text. -/
def keyText (v : Value) : String :=
  match v with
  | .text s => s
  | v => v.show?.toOption.getD ""

/-! ## Lists and maps in brackets -/

mutual

/-- A value within brackets. -/
def flowNode : Nat → Place → Except SyntaxFault (Value × Place)
  | 0, _ => .error .misplaced
  | fuel + 1, p =>
    match p.rest with
    | '[' :: _ => do
      let (items, after) ← flowItems fuel (p.after 1)
      return (.list items, after)
    | '{' :: _ => do
      let (entries, after) ← flowEntries fuel [] (p.after 1)
      return (.object entries, after)
    | c :: rest => do
      if isFlowSign c || (c = ':' && !plainStarts true (c :: rest)) || p.atDash then throw .misplaced
      let (v, s) ← scalar true 0 p
      return (v, s.after)
    | [] => .error .misplaced

/-- What follows a colon within brackets. -/
def flowValue : Nat → Place → Except SyntaxFault (Value × Place)
  | 0, _ => .error .misplaced
  | fuel + 1, p =>
    let (p, _) := p.token
    match p.rest with
    | ',' :: _ | ']' :: _ | '}' :: _ => .ok (.null, p)
    | _ => flowNode fuel p

/-- The items of a list in brackets, after the opening one or a comma. -/
def flowItems : Nat → Place → Except SyntaxFault (List Value × Place)
  | 0, _ => .error .misplaced
  | fuel + 1, p => do
    let (p, _) := p.token
    match p.rest with
    | ']' :: _ => return ([], p.after 1)
    | _ =>
      let (key, after) ← flowNode fuel p
      let (after, _) := after.token
      let (v, after) ← match after.rest with
        | ':' :: _ => do
          let (v, next) ← flowValue fuel (after.after 1)
          pure (Value.object [(keyText key, v)], next)
        | _ => pure (key, after)
      let (after, _) := after.token
      match after.rest with
      | ',' :: _ =>
        let (others, stop) ← flowItems fuel (after.after 1)
        return (v :: others, stop)
      | ']' :: _ => return ([v], after.after 1)
      | _ => throw .misplaced

/-- The entries of a map in braces, after the opening one or a comma. -/
def flowEntries : Nat → Table Value → Place → Except SyntaxFault (Table Value × Place)
  | 0, _, _ => .error .misplaced
  | fuel + 1, done, p => do
    let (p, _) := p.token
    match p.rest with
    | '}' :: _ => return (done, p.after 1)
    | _ =>
      let (key, after) ← flowNode fuel p
      let (after, _) := after.token
      let (v, after) ← match after.rest with
        | ':' :: _ => flowValue fuel (after.after 1)
        | _ => pure (Value.null, after)
      let done := done.insert (keyText key) v
      let (after, _) := after.token
      match after.rest with
      | ',' :: _ => flowEntries fuel done (after.after 1)
      | '}' :: _ => return (done, after.after 1)
      | _ => throw .misplaced

end

/-! ## Maps and lists by indentation -/

/-- What it means that something stands where it has no place. -/
def stray (p : Place) : SyntaxFault :=
  match p.rest with
  | '\'' :: _ => if (quoted '\'' p).isOk then .misplaced else .unreadable
  | '"' :: _ => if (quoted '"' p).isOk then .misplaced else .unreadable
  | c :: _ => if "\t%@\x60".toList.contains c then .unreadable else .misplaced
  | [] => .misplaced

/-- What it means that something stands where a line should end. -/
def trailing (p : Place) : SyntaxFault :=
  if p.atColon || p.atDash || p.atQuestion then .unreadable else stray p

mutual

/-- **A value** at a token. `indent` is where its further lines have to stand, `inline` whether it
follows a key on its line. -/
def node : Nat → Nat → Bool → Place → Except SyntaxFault (Value × Place)
  | 0, _, _, _ => .error .misplaced
  | fuel + 1, indent, inline, p =>
    match p.rest with
    | '[' :: _ | '{' :: _ => flowNode fuel p
    | ',' :: _ | ']' :: _ | '}' :: _ => .error .misplaced
    | _ =>
      if p.atDash then
        if inline then .error .unreadable else do
          let (items, after) ← blockItems fuel p.column false p
          return (.list items, after)
      else do
        let (v, s) ← scalar false indent p
        if s.after.atColon then
          if inline || s.broken then throw .unreadable
          let (entries, after) ← blockEntries fuel p.column [] (keyText v) s.after
          return (.object entries, after)
        else return (v, s.after)

/-- The items of a list by indentation. A list that hangs from a key may stand at the key's own
column, and then ends with the next key. -/
def blockItems : Nat → Nat → Bool → Place → Except SyntaxFault (List Value × Place)
  | 0, _, _, _ => .error .misplaced
  | fuel + 1, column, hanging, p => do
    let start := p.after 1
    let (v, after) ← match start.token with
      | (next, ended) =>
        if next.rest.isEmpty || (ended && next.column ≤ column) then pure (Value.null, start)
        else node fuel (column + 1) false next
    match after.token with
    | (next, ended) =>
      if next.rest.isEmpty then return ([v], next)
      else if !ended then throw (trailing next)
      else if next.column = column && next.atDash then
        let (others, stop) ← blockItems fuel column hanging next
        return (v :: others, stop)
      else if next.column < column || (hanging && next.column = column) then return ([v], after)
      else throw (stray next)

/-- The entries of a map by indentation, from the colon after a key on. -/
def blockEntries : Nat → Nat → Table Value → String → Place →
    Except SyntaxFault (Table Value × Place)
  | 0, _, _, _, _ => .error .misplaced
  | fuel + 1, column, done, key, p => do
    let start := p.after 1
    let (v, after) ← match start.token with
      | (next, ended) =>
        if next.rest.isEmpty then pure (Value.null, start)
        else if !ended then node fuel (column + 1) true next
        else if column < next.column then node fuel (column + 1) false next
        else if next.column = column && next.atDash then do
          let (items, stop) ← blockItems fuel column true next
          pure (Value.list items, stop)
        else pure (Value.null, start)
    let done := done.insert key v
    match after.token with
    | (next, ended) =>
      if next.rest.isEmpty then return (done, next)
      else if !ended then throw (trailing next)
      else if next.column < column then return (done, after)
      else if column < next.column || next.atDash || next.atColon then throw (stray next)
      else if ",]\x7d".toList.contains (next.rest.head?.getD ' ') then throw .misplaced
      else
        let (k, s) ← scalar false (column + 1) next
        if s.after.atColon && !s.broken then
          blockEntries fuel column done (keyText k) s.after
        else throw .unreadable

end

/-- Characters with all ends of lines written alike. -/
def unified : List Char → List Char
  | '\r' :: '\n' :: rest => '\n' :: unified rest
  | '\r' :: rest => '\n' :: unified rest
  | c :: rest => c :: unified rest
  | [] => []

/-- **The value of a text.** -/
def read (text : String) : Except SyntaxFault Value := do
  let (start, _) := Place.token ⟨unified text.toList, 0⟩
  if start.rest.isEmpty then return .null
  let (v, after) ← node (2 * text.length + 2) 0 false start
  let (next, ended) := after.token
  if next.rest.isEmpty then return v else throw (if ended then stray next else trailing next)

end ChatFlow.Yaml
