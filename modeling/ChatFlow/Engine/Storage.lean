import ChatFlow.Store.Ranking
import ChatFlow.Template.Render
import ChatFlow.Workflow.Params

/-!
# Storing nodes

The nodes `storage` and `global_storage`, which read and write the values that are stored for a user or
for everybody, and the node `leaderboard`, which ranks users by them.
-/

namespace ChatFlow.Storage

/-- What a node does with a stored value. -/
inductive Operation where
  /-- read it -/
  | get
  /-- write it -/
  | set
  /-- count it up -/
  | incr
  /-- count it down -/
  | decr
  /-- delete it -/
  | delete
  deriving DecidableEq, Repr

/-- The operation that `storage_type` names. -/
def Operation.ofName? : String → Option Operation
  | "get" => some .get
  | "set" => some .set
  | "incr" => some .incr
  | "decr" => some .decr
  | "delete" => some .delete
  | _ => none

/-! ## Either scope -/

/-- A stored value of a scope. -/
def read (scope : StorageScope) (user key : String) (default : Value) : Act World Value :=
  match scope with
  | .user => World.userValue user key default
  | .everyone => World.globalValue key default

/-- A stored value of a scope written. -/
def write (scope : StorageScope) (user key : String) (v : Value) : Act World Unit :=
  match scope with
  | .user => World.setUser user key v
  | .everyone => World.setGlobal key v

/-- A stored value of a scope counted up. -/
def count (scope : StorageScope) (user key : String) (amount : Number) (default : Value) :
    Act World Number :=
  match scope with
  | .user => World.incrUser user key amount default
  | .everyone => World.incrGlobal key amount default

/-- A stored value of a scope deleted. -/
def delete (scope : StorageScope) (user key : String) : Act World Bool :=
  match scope with
  | .user => World.deleteUser user key
  | .everyone => World.deleteGlobal key

/-! ## Stored values -/

/-- The variable for the result, by default `data_result` or `global_result`. -/
def resultVar (scope : StorageScope) (p : StorageParams) : String :=
  if p.resultVar ≠ "" then p.resultVar
  else match scope with
    | .user => "data_result"
    | .everyone => "global_result"

/-- The number to count by: one where the value is no number or zero. -/
def amountOf (value : String) : Except Fault Number := do
  let n := (Value.text value).toNumber
  if ← n.truthy then return n else return .int 1

/-- The number that counting begins with where nothing is stored. -/
def seedOf (default : Value) : Number :=
  if default.toNumber.isNaN then .int 0 else default.toNumber

/-- **An operation on a stored value**, and what the result variable holds afterwards. -/
def perform (scope : StorageScope) (p : StorageParams) (user key value : String) :
    Operation → Act World Value
  | .get => read scope user key p.default
  | .set => do
    write scope user key (← Act.of (Value.ofLiteral value))
    return .text value
  | .incr => do
    let amount ← Act.of (amountOf value)
    return .number (← count scope user key amount (.number (seedOf p.default)))
  | .decr => do
    let amount ← Act.of (amountOf value)
    return .number (← count scope user key amount.neg (.number (seedOf p.default)))
  | .delete => do
    let _ ← delete scope user key
    return .text ""

/-- **The nodes `storage` and `global_storage`.** Key and value are rendered; without a key nothing is
done. -/
def run (scope : StorageScope) (p : StorageParams) (o : Occasion) : Act World Unit := do
  let key ← Template.render o p.key
  if key = "" then return ()
  else
    let value ← Template.render o p.value
    match Operation.ofName? p.storageType with
    | none => return ()
    | some operation =>
      let result ← perform scope p o.event.userId key value operation
      World.assign (resultVar scope p) result

/-! ## Rankings -/

/-- The text of a score: whole numbers as they are, others to two places. -/
def scoreText : Number → Except Fault String
  | .double x =>
    if x.isInteger || x.isNaN || x.isInfinite then Value.toText (.number (Number.tidy (.double x)))
    else .ok (x.fixedText 2)
  | n => Value.toText (.number n)

/-- The line of a row at a place. -/
def rowText (place : Nat) (row : String × Number) : Except Fault String := do
  return intText place ++ ". " ++ String.ofList (row.1.toList.take 8) ++ "... : " ++
    (← scoreText row.2)

/-- The lines of rows from a place on. -/
def rowTexts : Nat → List (String × Number) → Except Fault (List String)
  | _, [] => .ok []
  | place, row :: rest => do
    let line ← rowText place row
    return line :: (← rowTexts (place + 1) rest)

/-- How many rows are asked for; ten where the limit is none. -/
def limitOf (limit : Value) : Except Fault Int := do
  let n := limit.toNumber
  if ← n.truthy then
    if ← n.isInfinite then return 10 else n.toInteger
  else return 10

/-- A row as a value. -/
def rowValue (row : String × Number) : Value := .list [.text row.1, .number row.2]

/-- **The node `leaderboard`**: the first rows of a ranking, the place of the user in it, or how many
are ranked, written into variables. -/
def leaderboard (p : LeaderboardParams) (o : Occasion) : Act World Unit := do
  let limit ← Act.of (limitOf p.limit)
  let ascending := p.ascending.isFlagSet
  let w ← Act.look
  match p.leaderboardType with
  | "top" =>
    let rows := w.store.top p.key limit ascending
    let lines ← Act.of (rowTexts 1 rows)
    World.assign "leaderboard" (.text ("\n".intercalate lines))
    World.assign "leaderboard_list" (.list (rows.map rowValue))
  | "my_rank" =>
    let rank := w.store.rankOf o.event.userId p.key ascending
    World.assign "my_rank" (.int rank.place)
    World.assign "my_value" (.number rank.value)
    World.assign "total_users" (.int rank.total)
  | "count" => World.assign "user_count" (.int (w.store.countWithKey p.key))
  | _ => return ()

end ChatFlow.Storage
