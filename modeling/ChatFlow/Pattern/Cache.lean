import ChatFlow.Pattern.Matcher
import ChatFlow.Table

/-!
# The cache of read patterns

A bounded table of patterns by their text, oldest first. A full cache drops its oldest pattern to
take a new one; a look-up changes no order, and a malformed pattern is never kept.
-/

namespace ChatFlow.Pattern

/-- **Read patterns by their text**, in the order they were kept. -/
structure Cache where
  /-- how many patterns are kept -/
  capacity : Nat
  /-- the characters that have names in patterns -/
  charNames : CharNames
  /-- the patterns, oldest first -/
  entries : Table Compiled

namespace Cache

/-- An empty cache for at least one pattern. -/
def create (names : CharNames) (capacity : Int) : Except Fault Cache :=
  if capacity < 1 then .error (.refused "capacity must be >= 1")
  else .ok ⟨capacity.toNat, names, []⟩

/-- Whether a pattern is kept. -/
def contains (cache : Cache) (text : String) : Bool := cache.entries.contains text

/-- The cache without its patterns. -/
def clear (cache : Cache) : Cache := { cache with entries := [] }

/-- The cache with a pattern that is not in it yet. -/
def keep (cache : Cache) (text : String) (p : Compiled) : Cache :=
  let kept := if cache.capacity ≤ cache.entries.length then cache.entries.tail else cache.entries
  { cache with entries := kept ++ [(text, p)] }

/-- **The pattern of a text**, nothing when it is malformed, and the cache after the look-up. -/
def get (cache : Cache) (text : String) : Except Fault (Option Compiled × Cache) :=
  match cache.entries.get? text with
  | some p => .ok (some p, cache)
  | none =>
    match parse cache.charNames text with
    | .ok p => .ok (some p, cache.keep text p)
    | .error .malformed => .ok (none, cache)
    | .error (.fault cause) => .error cause

end Cache

end ChatFlow.Pattern
