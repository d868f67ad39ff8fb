import ChatFlow.Store.Basic

/-!
# Rankings

Users ranked by the number stored under a key. Values that are not numbers do not take part; users
of equal value stand in the order of their records, whichever end comes first.
-/

namespace ChatFlow

/-- **The place of a user in a ranking.** -/
structure Rank where
  /-- place from one up, or zero without a value -/
  place : Nat
  /-- the ranked value -/
  value : Number
  /-- how many users are ranked -/
  total : Nat
  deriving Repr

namespace Store

/-- The ranked number of a record. -/
def score? (key : String) (record : Table Value) : Option Number :=
  ((record.get? key).map Value.toNumber).filter fun n => !n.isNaN

/-- Users that have a number under the key, in the order of their records. -/
def scored (s : Store) (key : String) : List (String × Number) :=
  s.users.filterMap fun entry => (score? key entry.2).map fun n => (entry.1, n)

/-- Whether the first may stand before the second. -/
def ahead (ascending : Bool) (a b : String × Number) : Bool :=
  if ascending then a.2.atMost b.2 else a.2.atLeast b.2

/-- **The ranking of a key**: users with their numbers, the greatest first or last. -/
def ranking (s : Store) (key : String) (ascending : Bool) : List (String × Number) :=
  (s.scored key).mergeSort (ahead ascending)

/-- The first rows of the ranking. -/
def top (s : Store) (key : String) (limit : Int) (ascending : Bool) : List (String × Number) :=
  (s.ranking key ascending).take limit.toNat

/-- The place of a user in a ranking that starts at a place. -/
def placeFrom (user : String) : Nat → List (String × Number) → Option (Nat × Number)
  | _, [] => none
  | i, (name, n) :: rest => if name = user then some (i, n) else placeFrom user (i + 1) rest

/-- **The place of a user in the ranking of a key.** -/
def rankOf (s : Store) (user key : String) (ascending : Bool) : Rank :=
  let rows := s.ranking key ascending
  match placeFrom user 1 rows with
  | some (place, n) => ⟨place, n, rows.length⟩
  | none => ⟨0, .int 0, rows.length⟩

end Store

end ChatFlow
