/-!
# UTF-8

* `Utf8.decode?` — strict: nothing when a byte sequence is ill-formed;
* `Utf8.decodeLossy` — every maximal ill-formed piece becomes `U+FFFD`;
* `Utf8.encode`.
-/

namespace ChatFlow.Utf8

/-- A byte that continues a sequence. -/
def isTail (b : UInt8) : Bool := 0x80 ≤ b && b ≤ 0xBF

/-- Whether a second byte may follow a leading byte: some leaders narrow the range, which keeps
out overlong forms, surrogates and numbers past the last code point. -/
def secondOk (lead b : UInt8) : Bool :=
  if lead = 0xE0 then 0xA0 ≤ b && b ≤ 0xBF
  else if lead = 0xED then 0x80 ≤ b && b ≤ 0x9F
  else if lead = 0xF0 then 0x90 ≤ b && b ≤ 0xBF
  else if lead = 0xF4 then 0x80 ≤ b && b ≤ 0x8F
  else isTail b

/-- How many bytes follow a leading byte. -/
def tailLength? (lead : UInt8) : Option Nat :=
  if lead < 0x80 then some 0
  else if 0xC2 ≤ lead && lead ≤ 0xDF then some 1
  else if 0xE0 ≤ lead && lead ≤ 0xEF then some 2
  else if 0xF0 ≤ lead && lead ≤ 0xF4 then some 3
  else none

/-- **One character or one ill-formed piece** at the head of a nonempty sequence: the character if
any, and how many bytes it takes. -/
def head (lead : UInt8) (rest : List UInt8) : Option Char × Nat :=
  let low (b : UInt8) : Nat := b.toNat % 64
  match tailLength? lead with
  | none => (none, 1)
  | some 0 => (some (Char.ofNat lead.toNat), 1)
  | some n =>
    match rest with
    | [] => (none, 1)
    | b :: rest =>
      if !secondOk lead b then (none, 1)
      else if n = 1 then (some (Char.ofNat (lead.toNat % 32 * 64 + low b)), 2)
      else match rest with
        | [] => (none, 2)
        | c :: rest =>
          if !isTail c then (none, 2)
          else if n = 2 then
            (some (Char.ofNat (lead.toNat % 16 * 4096 + low b * 64 + low c)), 3)
          else match rest with
            | [] => (none, 3)
            | d :: _ =>
              if !isTail d then (none, 3)
              else (some (Char.ofNat
                (lead.toNat % 8 * 262144 + low b * 4096 + low c * 64 + low d)), 4)

/-- The pieces of a byte sequence, skipping bytes already taken. -/
def pieces : List UInt8 → Nat → List (Option Char)
  | [], _ => []
  | _ :: rest, skip + 1 => pieces rest skip
  | lead :: rest, 0 => let (piece, taken) := head lead rest; piece :: pieces rest (taken - 1)

/-- **Strict decoding.** -/
def decode? (data : List UInt8) : Option (List Char) := (pieces data 0).mapM id

/-- **Lossy decoding.** -/
def decodeLossy (data : List UInt8) : List Char :=
  (pieces data 0).map fun piece => piece.getD '\ufffd'

/-- The bytes of a character. -/
def encodeChar (c : Char) : List UInt8 :=
  let n := c.toNat
  let tail (k : Nat) : UInt8 := (128 + n / Nat.pow 64 k % 64).toUInt8
  if n < 0x80 then [n.toUInt8]
  else if n < 0x800 then [(192 + n / 64).toUInt8, tail 0]
  else if n < 0x10000 then [(224 + n / 4096).toUInt8, tail 1, tail 0]
  else [(240 + n / 262144).toUInt8, tail 2, tail 1, tail 0]

/-- **Encoding.** -/
def encode (s : List Char) : List UInt8 := s.flatMap encodeChar

end ChatFlow.Utf8
