import ChatFlow.Pattern.Parser

/-!
# Matching patterns

Backtracking search. A tree is run at a spot — a position and the marks of the groups — with a
continuation that says whether the rest matches; the first way of matching that the continuation
accepts is the answer.

* `Pattern.search` — the leftmost match, with its groups;
* `Pattern.replaceAll` — every match replaced by a fixed text.

A repetition past its least count goes on only from a new position, so loops over the empty text
end.
-/

namespace ChatFlow.Pattern

/-- **A spot in a text**: the position, and where each group begins and ends. -/
structure Spot where
  /-- characters before the spot -/
  pos : Nat
  /-- begin and end of each group, in turn -/
  marks : Array (Option Nat)
  deriving DecidableEq, Repr

namespace Spot

/-- The spot with a mark set here. -/
def mark (s : Spot) (index : Nat) : Spot := { s with marks := s.marks.setIfInBounds index (some s.pos) }

/-- The extent of a group that has matched. -/
def extent? (s : Spot) (index : Nat) : Option (Nat × Nat) :=
  match s.marks[2 * (index - 1)]?, s.marks[2 * (index - 1) + 1]? with
  | some (some a), some (some b) => some (a, b)
  | _, _ => none

/-- The extent of a group that has matched and has not been opened again since. -/
def closed? (s : Spot) (index : Nat) : Option (Nat × Nat) :=
  match s.extent? index with
  | some (a, b) => if a ≤ b then some (a, b) else none
  | none => none

end Spot

/-- What is done with the spot after a piece. -/
abbrev Rest := Spot → Option Spot

/-- Whether the character at a position is of a word. -/
def wordAt (text : Array Char) (asciiOnly : Bool) (pos : Nat) : Bool :=
  match text[pos]? with
  | some c => CharClass.contains .word asciiOnly c.toNat
  | none => false

/-- Whether the character before a position is of a word. -/
def wordBefore (text : Array Char) (asciiOnly : Bool) (pos : Nat) : Bool :=
  pos ≠ 0 && wordAt text asciiOnly (pos - 1)

/-- **Whether an anchor holds** at a position. In the empty text no word begins or ends, and neither
does its opposite hold. -/
def Anchor.holds (text : Array Char) (pos : Nat) : Anchor → Bool
  | .start => pos = 0
  | .lineStart => pos = 0 || text[pos - 1]? = some '\n'
  | .stop => pos = text.size || (pos + 1 = text.size && text[pos]? = some '\n')
  | .lineStop => pos = text.size || text[pos]? = some '\n'
  | .textStop => pos = text.size
  | .boundary asciiOnly negated =>
    !text.isEmpty &&
      (wordBefore text asciiOnly pos != wordAt text asciiOnly pos) != negated

/-- Whether the texts of a length at two positions are equal. -/
def sameText (text : Array Char) (rule : CaseRule) (a b : Nat) : Nat → Bool
  | 0 => true
  | n + 1 =>
    match text[a]?, text[b]? with
    | some x, some y =>
      rule.fold x.toNat == rule.fold y.toNat && sameText text rule (a + 1) (b + 1) n
    | _, _ => false

/-! ## Repetitions of one character -/

/-- How many characters from a position are accepted, at most so many. -/
def runLength (text : Array Char) (test : CharTest) (pos : Nat) : Nat → Nat
  | 0 => 0
  | n + 1 =>
    match text[pos]? with
    | some c => if test.accepts c then runLength text test (pos + 1) n + 1 else 0
    | none => 0

/-- The rest tried after a number of characters, then after fewer, down to the least. -/
def fromMost (s : Spot) (least : Nat) (k : Rest) : Nat → Option Spot
  | 0 => if least = 0 then k s else none
  | n + 1 =>
    if n + 1 < least then none
    else match k { s with pos := s.pos + (n + 1) } with
      | some r => some r
      | none => fromMost s least k n

/-- The rest tried after a number of characters, then after one more, as often as allowed. -/
def fromLeast (s : Spot) (k : Rest) : Nat → Nat → Option Spot
  | count, 0 => k { s with pos := s.pos + count }
  | count, more + 1 =>
    match k { s with pos := s.pos + count } with
    | some r => some r
    | none => fromLeast s k (count + 1) more

/-- A repetition of one character. -/
def loopOne (text : Array Char) (greed : Greed) (least : Nat) (most : Option Nat) (test : CharTest)
    (s : Spot) (k : Rest) : Option Spot :=
  let left := text.size - s.pos
  let bound := match most with
    | some n => min n left
    | none => left
  let count := runLength text test s.pos bound
  if count < least then none
  else match greed with
    | .most => fromMost s least k count
    | .least => fromLeast s k least (count - least)
    | .only => k { s with pos := s.pos + count }

/-! ## Repetitions of a piece -/

/-- Whether a repetition may go on after a count. -/
def hasRoom (count : Nat) : Option Nat → Bool
  | some most => count < most
  | none => true

/-- As many repetitions as possible first. `last` is where the latest optional one began. -/
def loopMost (body : Spot → Rest → Option Spot) (least : Nat) (most : Option Nat) (k : Rest) :
    Nat → Nat → Option Nat → Spot → Option Spot
  | 0, _, _, _ => none
  | fuel + 1, count, last, s =>
    if count < least then body s (loopMost body least most k fuel (count + 1) last)
    else if hasRoom count most && last ≠ some s.pos then
      match body s (loopMost body least most k fuel (count + 1) (some s.pos)) with
      | some r => some r
      | none => k s
    else k s

/-- As few repetitions as possible first. -/
def loopLeast (body : Spot → Rest → Option Spot) (least : Nat) (most : Option Nat) (k : Rest) :
    Nat → Nat → Option Nat → Spot → Option Spot
  | 0, _, _, _ => none
  | fuel + 1, count, last, s =>
    if count < least then body s (loopLeast body least most k fuel (count + 1) last)
    else match k s with
      | some r => some r
      | none =>
        if hasRoom count most && last ≠ some s.pos then
          body s (loopLeast body least most k fuel (count + 1) (some s.pos))
        else none

/-- As many repetitions as possible, each matched in its first way and kept. -/
def loopOnly (body : Spot → Rest → Option Spot) (least : Nat) (most : Option Nat) (k : Rest) :
    Nat → Nat → Option Nat → Spot → Option Spot
  | 0, _, _, _ => none
  | fuel + 1, count, last, s =>
    if count < least then
      match body s some with
      | some s' => loopOnly body least most k fuel (count + 1) last s'
      | none => none
    else if hasRoom count most && last ≠ some s.pos then
      match body s some with
      | some s' => loopOnly body least most k fuel (count + 1) (some s.pos) s'
      | none => k s
    else k s

/-- A repetition of a piece. Past the least count every further one but the last takes a
character, which bounds their number. -/
def loopPiece (text : Array Char) (greed : Greed) (body : Spot → Rest → Option Spot) (least : Nat)
    (most : Option Nat) (s : Spot) (k : Rest) : Option Spot :=
  let fuel := least + (text.size - s.pos) + 3
  match greed with
  | .most => loopMost body least most k fuel 0 none s
  | .least => loopLeast body least most k fuel 0 none s
  | .only => loopOnly body least most k fuel 0 none s

/-- **Run a tree** at a spot, then the rest. -/
def Node.run (text : Array Char) : Node → Spot → Rest → Option Spot
  | .empty, s, k => k s
  | .one test, s, k =>
    match text[s.pos]? with
    | some c => if test.accepts c then k { s with pos := s.pos + 1 } else none
    | none => none
  | .anchor place, s, k => if place.holds text s.pos then k s else none
  | .seq a b, s, k => a.run text s fun s' => b.run text s' k
  | .alt a b, s, k =>
    match a.run text s k with
    | some r => some r
    | none => b.run text s k
  | .group index body, s, k =>
    body.run text (s.mark (2 * (index - 1))) fun s' => k (s'.mark (2 * (index - 1) + 1))
  | .backref rule index, s, k =>
    match s.closed? index with
    | some (a, b) =>
      if sameText text rule a s.pos (b - a) then k { s with pos := s.pos + (b - a) } else none
    | none => none
  | .look behind negated body, s, k =>
    let back := behind.getD 0
    let found := if s.pos < back then none else body.run text { s with pos := s.pos - back } some
    match found with
    | some inner => if negated then none else k { inner with pos := s.pos }
    | none => if negated then k s else none
  | .atomic body, s, k =>
    match body.run text s some with
    | some s' => k s'
    | none => none
  | .loop greed least most body, s, k =>
    match body with
    | .one test => loopOne text greed least most test s k
    | body => loopPiece text greed (fun s' k' => body.run text s' k') least most s k
  | .conditional index whenSet whenUnset, s, k =>
    match s.closed? index with
    | some _ => whenSet.run text s k
    | none => whenUnset.run text s k

namespace Compiled

/-- The match at a position; with `advance` it must take a character. -/
def matchAt (p : Compiled) (text : Array Char) (advance : Bool) (pos : Nat) : Option Spot :=
  p.node.run text ⟨pos, Array.replicate (2 * p.groups) none⟩ fun s =>
    if advance && s.pos = pos then none else some s

/-- The first match at one of the positions from one on, and where it begins. The number counts
the positions left. -/
def searchFrom (p : Compiled) (text : Array Char) (advance : Bool) (pos : Nat) :
    Nat → Option (Nat × Spot)
  | 0 => none
  | left + 1 =>
    match p.matchAt text advance pos with
    | some s => some (pos, s)
    | none => searchFrom p text false (pos + 1) left

/-- **A match**: its extent and that of each group that took part. -/
structure Match where
  /-- where it begins -/
  start : Nat
  /-- where it ends -/
  stop : Nat
  /-- the groups in order -/
  groups : List (Option (Nat × Nat))
  deriving DecidableEq, Repr

/-- **The leftmost match** in a text. -/
def search (p : Compiled) (text : Array Char) : Option Match :=
  (p.searchFrom text false 0 (text.size + 1)).map fun (start, s) =>
    ⟨start, s.pos, (List.range p.groups).map fun i => s.extent? (i + 1)⟩

/-- The characters between two positions. -/
def slice (text : Array Char) (start stop : Nat) : List Char := (text.extract start stop).toList

/-- The text from a position on with the matches replaced. After an empty match the next one from
the same position may not be empty. -/
def replaceFrom (p : Compiled) (text : Array Char) (value : List Char) :
    Nat → Bool → Nat → List Char
  | 0, _, pos => slice text pos text.size
  | fuel + 1, advance, pos =>
    match p.searchFrom text advance pos (text.size + 1 - pos) with
    | none => slice text pos text.size
    | some (start, s) =>
      slice text pos start ++ value ++ replaceFrom p text value fuel (s.pos = start) s.pos

/-- **Every match replaced** by a fixed text, empty matches included. -/
def replaceAll (p : Compiled) (value s : List Char) : List Char :=
  let text := s.toArray
  p.replaceFrom text value (2 * text.size + 2) false 0

/-- The texts of the groups of the leftmost match; a group that took no part is empty. -/
def captures? (p : Compiled) (s : List Char) : Option (List String) :=
  let text := s.toArray
  (p.search text).map fun m => m.groups.map fun
    | some (a, b) => String.ofList (slice text a b)
    | none => ""

/-- Whether the pattern matches somewhere in a text. -/
def occurs (p : Compiled) (s : List Char) : Bool := (p.search s.toArray).isSome

end Compiled

end ChatFlow.Pattern
