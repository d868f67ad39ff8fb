import ChatFlow.Value.Loose

/-!
# Stored values

Each user has values under keys, and there are values for everybody. A stored nothing reads like a
missing value.

* reads take what stands for a missing value;
* counting up seeds a missing value, works on text that spells a number, and keeps whole results
  whole;
* the record of a user is made by the first write, and stays when its last value is deleted.
-/

namespace ChatFlow

/-- **The stored values.** -/
structure Store where
  /-- values of users, in order of their first write -/
  users : Table (Table Value)
  /-- values for everybody -/
  globals : Table Value
  deriving Repr

/-- The two parts of a store. -/
inductive Collection where
  /-- values of users -/
  | users
  /-- values for everybody -/
  | globals
  deriving DecidableEq, Repr

namespace Store

/-- The store that holds nothing. -/
def empty : Store := ⟨[], []⟩

/-- A value, or what stands for a missing one. -/
def orDefault (default : Value) : Option Value → Value
  | none | some .null => default
  | some v => v

/-- The record of a user; empty for an unknown one. -/
def record (s : Store) (user : String) : Table Value := (s.users.get? user).getD []

/-- The store with the record of a user written. -/
def withRecord (s : Store) (user : String) (record : Table Value) : Store :=
  { s with users := s.users.insert user record }

/-! ## Reading -/

/-- **The value that is stored for a user** under a key, or a default. -/
def userValue (s : Store) (user key : String) (default : Value) : Value :=
  orDefault default ((s.record user).get? key)

/-- **The value that is stored for everybody** under a key, or a default. -/
def globalValue (s : Store) (key : String) (default : Value) : Value :=
  orDefault default (s.globals.get? key)

/-- How many users have the key. -/
def countWithKey (s : Store) (key : String) : Nat :=
  (s.users.filter fun entry => Table.contains entry.2 key).length

/-! ## Writing -/

/-- The store with a value of a user written. -/
def setUser (s : Store) (user key : String) (value : Value) : Store :=
  s.withRecord user ((s.record user).insert key value)

/-- The store with a value for everybody written. -/
def setGlobal (s : Store) (key : String) (value : Value) : Store :=
  { s with globals := s.globals.insert key value }

/-- **A stored value counted up** by an amount, from a default where there is none. -/
def counted (current : Option Value) (amount : Number) (default : Value) : Except Fault Number := do
  let sum ← (orDefault default current).toNumber.add amount
  return sum.tidy

/-- A value of a user counted up. Its record is there afterwards, also where the sum has none. -/
def incrUser (s : Store) (user key : String) (amount : Number) (default : Value) :
    Except Fault Number × Store :=
  match counted ((s.record user).get? key) amount default with
  | .ok n => (.ok n, s.setUser user key (.number n))
  | .error f => (.error f, s.withRecord user (s.record user))

/-- A value for everybody counted up. -/
def incrGlobal (s : Store) (key : String) (amount : Number) (default : Value) :
    Except Fault Number × Store :=
  match counted (s.globals.get? key) amount default with
  | .ok n => (.ok n, s.setGlobal key (.number n))
  | .error f => (.error f, s)

/-- A value of a user deleted, and whether there was one. -/
def deleteUser (s : Store) (user key : String) : Bool × Store :=
  if (s.record user).contains key then (true, s.withRecord user ((s.record user).erase key))
  else (false, s)

/-- A value for everybody deleted, and whether there was one. -/
def deleteGlobal (s : Store) (key : String) : Bool × Store :=
  if s.globals.contains key then (true, { s with globals := s.globals.erase key })
  else (false, s)

theorem record_withRecord (s : Store) (user other : String) (r : Table Value) :
    (s.withRecord user r).record other = if user = other then r else s.record other := by
  simp only [record, withRecord, Table.get?_insert]
  split <;> rfl

theorem userValue_setUser (s : Store) (user other key name : String) (v default : Value) :
    (s.setUser user key v).userValue other name default =
      if user = other ∧ key = name then orDefault default (some v)
      else s.userValue other name default := by
  simp only [userValue, setUser, record_withRecord]
  by_cases hu : user = other
  · subst hu
    by_cases hk : key = name <;> simp [hk, Table.get?_insert]
  · simp [hu]

theorem globalValue_setGlobal (s : Store) (key name : String) (v default : Value) :
    (s.setGlobal key v).globalValue name default =
      if key = name then orDefault default (some v) else s.globalValue name default := by
  simp only [globalValue, setGlobal, Table.get?_insert]
  split <;> rfl

end Store

end ChatFlow
