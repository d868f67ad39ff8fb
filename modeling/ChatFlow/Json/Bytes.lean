import ChatFlow.Json.Reader
import ChatFlow.Text.Utf8

/-!
# Documents of bytes

A document may come in UTF-8, UTF-16 or UTF-32. A mark at its start tells which, and without one the
zeros among its first bytes do, as a document begins with characters of ASCII.

* `Encoding.mark?`, `Encoding.guess` — the encoding of a document;
* `Encoding.decode?` — what its bytes spell in an encoding, halves of surrogate pairs included;
* `readBytes` — **the document of bytes**.
-/

namespace ChatFlow.Json

/-- **How characters are spelled in bytes.** Numbers of several bytes have their greater ones first or
last. -/
inductive Encoding where
  /-- bytes by the size of the number -/
  | utf8
  /-- numbers of two bytes -/
  | utf16 (greaterFirst : Bool)
  /-- numbers of four bytes -/
  | utf32 (greaterFirst : Bool)
  deriving DecidableEq, Repr

/-- **Text as bytes spell it.** -/
structure Spelling where
  /-- the characters, with `U+FFFD` for halves of surrogate pairs -/
  chars : List Char
  /-- whether there are such halves -/
  halved : Bool
  deriving DecidableEq, Repr

namespace Encoding

/-! ## Which one it is -/

/-- The marks that a document may begin with. One begins like another, and comes before it. -/
def marks : List (List UInt8 × Encoding) :=
  [([0x00, 0x00, 0xFE, 0xFF], .utf32 true), ([0xFF, 0xFE, 0x00, 0x00], .utf32 false),
    ([0xFE, 0xFF], .utf16 true), ([0xFF, 0xFE], .utf16 false), ([0xEF, 0xBB, 0xBF], .utf8)]

/-- The mark at the start of a document. -/
def mark? (data : List UInt8) : Option (List UInt8 × Encoding) :=
  marks.find? fun mark => mark.1.isPrefixOf data

/-- The encoding of a document without a mark, by the zeros at its start. -/
def guess : List UInt8 → Encoding
  | a :: b :: c :: d :: _ =>
    if a = 0 then (if b = 0 then .utf32 true else .utf16 true)
    else if b = 0 then (if c = 0 && d = 0 then .utf32 false else .utf16 false)
    else .utf8
  | [a, b] => if a = 0 then .utf16 true else if b = 0 then .utf16 false else .utf8
  | _ => .utf8

/-! ## What it spells -/

/-- Numbers put together by twos, each below a base; nothing when one is left over. -/
def paired? (base : Nat) (greaterFirst : Bool) : List Nat → Option (List Nat)
  | [] => some []
  | [_] => none
  | a :: b :: rest => do
    let others ← paired? base greaterFirst rest
    return (if greaterFirst then a * base + b else b * base + a) :: others

/-- Surrogate pairs joined. -/
def joined : List Nat → List Nat
  | high :: low :: rest =>
    if isHigh high && isLow low then pairNumber high low :: joined rest
    else high :: joined (low :: rest)
  | units => units

/-- Whether three bytes spell half of a surrogate pair, as UTF-8 would if it spelled them. -/
def spellsHalf (a b c : UInt8) : Bool := a = 0xED && 0xA0 ≤ b && b ≤ 0xBF && Utf8.isTail c

/-- Bytes with `U+FFFD` in the place of halves. -/
def mended : List UInt8 → List UInt8
  | a :: b :: c :: rest =>
    if spellsHalf a b c then 0xEF :: 0xBF :: 0xBD :: mended rest else a :: mended (b :: c :: rest)
  | data => data

/-- Text of the numbers of its characters. -/
def spelled (numbers : List Nat) : Spelling where
  chars := numbers.map unitChar
  halved := numbers.any fun n => isHigh n || isLow n

/-- **What bytes spell** in an encoding; nothing if they are ill-formed. -/
def decode? (data : List UInt8) : Encoding → Option Spelling
  | .utf8 =>
    match Utf8.decode? data with
    | some s => some ⟨s, false⟩
    | none => (Utf8.decode? (mended data)).map fun s => ⟨s, true⟩
  | .utf16 greaterFirst => do
    let units ← paired? 0x100 greaterFirst (data.map UInt8.toNat)
    return spelled (joined units)
  | .utf32 greaterFirst => do
    let units ← paired? 0x100 greaterFirst (data.map UInt8.toNat)
    let numbers ← paired? 0x10000 greaterFirst units
    if numbers.all (· < 0x110000) then some (spelled numbers) else none

end Encoding

/-- **What the bytes of a document spell.** -/
def spelling? (data : List UInt8) : Option Spelling :=
  match Encoding.mark? data with
  | some (mark, encoding) => encoding.decode? (data.drop mark.length)
  | none => (Encoding.guess data).decode? data

/-- **Read a document from bytes.** Nothing when they are ill-formed. -/
def readBytes (data : List UInt8) : Option (Except ReadFault Value) :=
  (spelling? data).map fun spelling =>
    match readChars spelling.chars with
    | .ok v => if spelling.halved then .error (.halfSurrogate v) else .ok v
    | .error fault => .error fault

end ChatFlow.Json
