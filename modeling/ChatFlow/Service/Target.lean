import ChatFlow.Json.Reader
import ChatFlow.Table
import ChatFlow.Text.Search
import ChatFlow.Text.Utf8

/-!
# Targets of requests

What a request asks for: a path, and after a question mark a query of entries joined by `&`.

* In names and values of a query a plus sign is a space, and a percent sign with two hexadecimal
  digits is a byte; bytes are UTF-8, and what is ill-formed in them is replaced.
* Of equal names the last value counts.
-/

namespace ChatFlow.Service

/-- **What a request asks for.** -/
structure Target where
  /-- the path -/
  path : String
  /-- the query -/
  query : Table String
  deriving Repr

namespace Target

/-- The bytes of escaped text, `skip` characters of it already taken. -/
def escapedBytes : Nat → List Char → List UInt8
  | _, [] => []
  | skip + 1, _ :: rest => escapedBytes skip rest
  | 0, c :: rest =>
    match c, rest with
    | '%', a :: b :: _ =>
      match Json.hexValue? a, Json.hexValue? b with
      | some high, some low => (high * 16 + low).toUInt8 :: escapedBytes 2 rest
      | _, _ => Utf8.encodeChar c ++ escapedBytes 0 rest
    | _, _ => Utf8.encodeChar c ++ escapedBytes 0 rest

/-- **Escaped text read.** -/
def unescape (s : List Char) : String := String.ofList (Utf8.decodeLossy (escapedBytes 0 s))

/-- A plus sign as the space it stands for. -/
def plusToSpace (c : Char) : Char := if c = '+' then ' ' else c

/-- An entry of a query. -/
def entryOf (s : List Char) : String × String :=
  let (name, value) := cutAt '=' (s.map plusToSpace)
  (unescape name, unescape value)

/-- **A query read.** -/
def queryOf (s : List Char) : Table String :=
  Table.ofEntries (((splitOn ['&'] s).filter fun part => !part.isEmpty).map entryOf)

/-- **A target read.** -/
def ofText (s : String) : Target :=
  let (path, query) := cutAt '?' s.toList
  ⟨String.ofList path, queryOf query⟩

end Target

end ChatFlow.Service
