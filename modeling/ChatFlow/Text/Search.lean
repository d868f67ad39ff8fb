/-!
# Cutting and replacing text

Search for a fixed piece of text, on lists of characters: where it occurs, splitting at it and
replacing it. Occurrences are taken from the left and do not overlap.
-/

namespace ChatFlow

/-- The rest after a leading piece, if the text starts with it. -/
def dropLeading? : List Char → List Char → Option (List Char)
  | [], s => some s
  | _ :: _, [] => none
  | p :: ps, c :: s => if p = c then dropLeading? ps s else none

/-- Whether the text starts with the piece. -/
def startsWith (piece s : List Char) : Bool := (dropLeading? piece s).isSome

/-- Whether the piece occurs in the text; the empty piece occurs everywhere. -/
def occursIn (piece : List Char) : List Char → Bool
  | [] => piece.isEmpty
  | c :: s => startsWith piece (c :: s) || occursIn piece s

/-- Pieces of the text between the occurrences of a nonempty separator. The count says how many
characters of an occurrence are still to be skipped. -/
def splitAux (sep : List Char) : List Char → Nat → List Char → List (List Char)
  | [], _, piece => [piece.reverse]
  | _ :: s, skip + 1, piece => splitAux sep s skip piece
  | c :: s, 0, piece =>
    if startsWith sep (c :: s) then piece.reverse :: splitAux sep s (sep.length - 1) []
    else splitAux sep s 0 (c :: piece)

/-- **Split at a separator.** The text between its occurrences, at least one piece. -/
def splitOn (sep s : List Char) : List (List Char) := splitAux sep s 0 []

/-- The text with every occurrence of a nonempty piece replaced, skipping what is already
consumed. -/
def replaceAux (piece value : List Char) : List Char → Nat → List Char
  | [], _ => []
  | _ :: s, skip + 1 => replaceAux piece value s skip
  | c :: s, 0 =>
    if startsWith piece (c :: s) then value ++ replaceAux piece value s (piece.length - 1)
    else c :: replaceAux piece value s 0

/-- **Replace every occurrence** of a nonempty piece. -/
def replaceAll (piece value s : List Char) : List Char := replaceAux piece value s 0

/-- The text before and after the first occurrence of a character; all of it before when there is
none. -/
def cutAt (sep : Char) : List Char → List Char × List Char
  | [] => ([], [])
  | c :: s => if c = sep then ([], s) else let (a, b) := cutAt sep s; (c :: a, b)

/-- Characters that end a line. -/
def isLineEnd (c : Char) : Bool :=
  c = '\n' || c = '\r' || c = '\x0b' || c = '\x0c' || c = '\x1c' || c = '\x1d' || c = '\x1e' ||
    c.toNat = 0x85 || c.toNat = 0x2028 || c.toNat = 0x2029

/-- **Lines**, without their ends; a carriage return and line feed end one line together. -/
def linesAux : List Char → List Char → List (List Char)
  | [], [] => []
  | [], line => [line.reverse]
  | '\r' :: '\n' :: s, line => line.reverse :: linesAux s []
  | c :: s, line => if isLineEnd c then line.reverse :: linesAux s [] else linesAux s (c :: line)

/-- The lines of a text. -/
def lines (s : List Char) : List (List Char) := linesAux s []

/-- Pieces joined with a separator between them. -/
def joinWith (sep : List Char) : List (List Char) → List Char
  | [] => []
  | [a] => a
  | a :: b :: rest => a ++ sep ++ joinWith sep (b :: rest)

/-- **Length in sixteen-bit units**: characters beyond `U+FFFF` count twice. -/
def units16 (s : List Char) : Nat :=
  s.foldl (fun n c => n + if c.toNat < 0x10000 then 1 else 2) 0

end ChatFlow
