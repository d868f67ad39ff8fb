import ChatFlow.Text.CaseTable
import ChatFlow.Text.NameTable
import ChatFlow.Text.Class

/-!
# Letter case

* `lowerText`, `upperText` — the case forms of a text; a sigma at the end of a word has a lower
  case form of its own, and some characters have a longer upper case;
* `lowerCode` — the lower case of one character, for comparison;
* `caseVariants` — all characters that differ from one only in case.
-/

namespace ChatFlow

/-- The distance from a character to its other case, where a run has it. -/
def caseShift? (runs : List (Nat × Nat × Nat × Int)) (code : Nat) : Option Int :=
  (runs.find? fun (first, last, step, _) =>
    first ≤ code && code ≤ last && (code - first) % step = 0).map fun (_, _, _, shift) => shift

/-- A code point moved by a distance. -/
def shifted (code : Nat) (shift : Int) : Nat := ((code : Int) + shift).toNat

/-- **The lower case of one character.** The dotted capital I counts as an i. -/
def lowerCode (code : Nat) : Nat :=
  if code < 128 then (if 65 ≤ code && code ≤ 90 then code + 32 else code)
  else if code = 0x130 then 105
  else match caseShift? CaseTable.lowerRuns code with
    | some shift => shifted code shift
    | none => code

/-- The upper case of a character. -/
def upperChars (c : Char) : List Char :=
  if c.toNat < 128 then [c.toUpper]
  else match CaseTable.longUppers.find? fun entry => entry.1 = c.toNat with
    | some (_, codes) => codes.map Char.ofNat
    | none => match caseShift? CaseTable.upperRuns c.toNat with
      | some shift => [Char.ofNat (shifted c.toNat shift)]
      | none => [c]

/-- Whether the nearest character that is not skipped has case. -/
def meetsCased : List Char → Bool
  | [] => false
  | c :: rest =>
    if inRanges CaseTable.skipped c.toNat then meetsCased rest else inRanges CaseTable.cased c.toNat

/-- The lower case of a text, with the characters already passed in reverse. A sigma that ends a
word is written as a final one. -/
def lowerAux : List Char → List Char → List Char
  | _, [] => []
  | before, c :: rest =>
    let form : List Char :=
      if c.toNat = 0x3A3 then
        [if meetsCased before && !meetsCased rest then '\u03c2' else '\u03c3']
      else if c.toNat = 0x130 then ['i', '\u0307']
      else [Char.ofNat (lowerCode c.toNat)]
    form ++ lowerAux (c :: before) rest

/-- **Lower case.** -/
def lowerText (s : String) : String := String.ofList (lowerAux [] s.toList)

/-- **Upper case.** -/
def upperText (s : String) : String := String.ofList (s.toList.flatMap upperChars)

/-- The lower case characters that compare equal to a lower case character. -/
def equalLowers (code : Nat) : List Nat :=
  match CaseTable.sameUpper.find? fun group => group.contains code with
  | some group => group
  | none => [code]

/-- The characters with a given lower case. -/
def withLower (code : Nat) : List Nat :=
  let others := CaseTable.lowerRuns.filterMap fun (first, last, step, shift) =>
    let source := shifted code (-shift)
    if first ≤ source && source ≤ last && (source - first) % step = 0 then some source else none
  code :: others ++ (if code = 105 then [0x130] else [])

/-- **All characters that differ only in case.** -/
def caseVariants (code : Nat) : List Nat := (equalLowers (lowerCode code)).flatMap withLower

/-- Whether a text is a name: a letter or underscore, then letters, marks, digits or underscores. -/
def isName : List Char → Bool
  | [] => false
  | c :: rest =>
    inRanges NameTable.start c.toNat && rest.all fun d => inRanges NameTable.more d.toNat

end ChatFlow
