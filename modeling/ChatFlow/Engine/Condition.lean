import ChatFlow.Expr.Evaluation
import ChatFlow.Template.Render
import ChatFlow.Workflow.Params

/-!
# Conditions

The question of a condition node. Its value is a template, so a condition can compare with what is
known at the time; a value of two halves is cut at a sign: `key=value`, `key>value`, `key<value`,
`key,seconds`, `start-end`.

A question of unknown kind is answered with yes. One that cannot be answered is answered with no.
-/

namespace ChatFlow.Condition

/-- A kind of question. -/
inductive Kind where
  /-- the message contains the value -/
  | contains
  /-- the message is the value -/
  | equals
  /-- the message matches the value as a pattern -/
  | regex
  /-- chance, in percent -/
  | random
  /-- the sender -/
  | userId
  /-- the group -/
  | groupId
  /-- a variable has the text -/
  | varEquals
  /-- a variable is greater -/
  | varGreater
  /-- a variable is less -/
  | varLess
  /-- a stored value of the user has the text -/
  | dataEquals
  /-- a stored value of the user is greater -/
  | dataGreater
  /-- a stored value of the user is less -/
  | dataLess
  /-- a stored value of the user is the date of today -/
  | dataIsToday
  /-- so many seconds have passed since the stored time -/
  | cooldown
  /-- the hour lies between two hours -/
  | timeRange
  /-- today is one of the days -/
  | weekdayIn
  /-- a stored value for everybody has the text -/
  | globalEquals
  /-- a stored value for everybody is greater -/
  | globalGreater
  /-- an expression holds -/
  | expression
  deriving DecidableEq, Repr

/-- The kind that `condition_type` names. -/
def Kind.ofName? : String → Option Kind
  | "contains" => some .contains
  | "equals" => some .equals
  | "regex" => some .regex
  | "random" => some .random
  | "user_id" => some .userId
  | "group_id" => some .groupId
  | "var_equals" => some .varEquals
  | "var_gt" => some .varGreater
  | "var_lt" => some .varLess
  | "data_equals" => some .dataEquals
  | "data_gt" => some .dataGreater
  | "data_lt" => some .dataLess
  | "data_is_today" => some .dataIsToday
  | "cooldown" => some .cooldown
  | "time_range" => some .timeRange
  | "weekday_in" => some .weekdayIn
  | "global_equals" => some .globalEquals
  | "global_gt" => some .globalGreater
  | "expression" => some .expression
  | _ => none

/-! ## Values of two halves -/

/-- **The halves of a value** around the first sign; what follows a second sign is left out, and
there is no second half without a sign. -/
def halves (sign : Char) (value : String) : String × Option String :=
  match splitOn [sign] value.toList with
  | key :: second :: _ => (text key, some (text second))
  | [key] => (text key, none)
  | [] => ("", none)
where
  /-- A half without white space around it. -/
  text (s : List Char) : String := String.ofList (trimChars s)

/-- The number of a text. -/
def number (s : String) : Number := (Value.text s).toNumber

/-- The number of a variable; what is not true counts as zero. -/
def variableNumber (context : Table Value) (name : String) : Except Fault Number := do
  let v := Value.orNull (context.get? name)
  if ← v.truthy then return v.toNumber else return .int 0

/-! ## The clock -/

/-- The days of the week by name. -/
def dayNumbers : Table Nat :=
  [("周日", 0), ("周一", 1), ("周二", 2), ("周三", 3), ("周四", 4), ("周五", 5), ("周六", 6),
    ("sunday", 0), ("monday", 1), ("tuesday", 2), ("wednesday", 3), ("thursday", 4), ("friday", 5),
    ("saturday", 6), ("sun", 0), ("mon", 1), ("tue", 2), ("wed", 3), ("thu", 4), ("fri", 5),
    ("sat", 6)]

/-- The number of a day, by name or as a number. -/
def dayNumber (day : String) : Except Fault (Option Int) :=
  match dayNumbers.get? (lowerText day) with
  | some n => .ok (some n)
  | none => Number.leadingInt? day

/-- Whether one of the days is a day of the week. -/
def namesDay (today : Nat) : List (List Char) → Except Fault Bool
  | [] => .ok false
  | day :: rest => do
    if (← dayNumber (String.ofList (trimChars day))) = some (today : Int) then return true
    else namesDay today rest

/-- Whether an hour lies between two hours, which may lie on two days. -/
def hourWithin (start stop hour : Int) : Bool :=
  if start ≤ stop then start ≤ hour && hour ≤ stop else start ≤ hour || hour ≤ stop

/-- Whether an hour lies in a range of hours, as `time_range` asks. -/
def inRange (value : String) (hour : Nat) : Except Fault Bool := do
  let bounds ← (splitOn ['-'] value.toList).mapM fun s =>
    Number.leadingInt? (String.ofList (trimChars s))
  match bounds with
  | some start :: some stop :: _ => return hourWithin start stop hour
  | _ => return false

/-- **Whether so many seconds have passed** since a stored time, as `cooldown` asks. -/
def hasCooled (store : Store) (user : String) (zone : Zone) (now : Moment) (value : String) :
    Except Fault Bool := do
  let (key, seconds) := halves ',' value
  let last := (store.userValue user key (.int 0)).toNumber
  let passed ← (Number.double (← now.timestamp zone)).sub last
  let asked := match seconds with
    | some s => if s = "" then .int 0 else number s
    | none => .int 0
  return passed.atLeast asked

/-! ## Expressions -/

/-- What an expression can name. -/
def expressionBase (o : Occasion) (zone : Zone) (now : Moment) : Except Fault (Table Value) := do
  let seconds ← (Number.double (← now.timestamp zone)).toInteger
  return [("user_id", .text o.event.userId), ("group_id", .text (o.event.groupId.getD "")),
    ("content", .text o.text), ("message", .text o.text), ("hour", .int now.hour),
    ("minute", .int now.minute), ("weekday", .int now.weekday), ("timestamp", .int seconds)]

/-- A variable of the run as an expression sees it: plain values as they are, others as text. -/
def plainValue : Value → Except Fault Value
  | .bool b => .ok (.bool b)
  | .number n => .ok (.number n)
  | .text s => .ok (.text s)
  | v => v.toText.map .text

/-- The names of an expression with the variables of the run. -/
def withVariables (names : Table Value) : Table Value → Except Fault (Table Value)
  | [] => .ok names
  | (name, v) :: rest =>
    if Template.reservedNames.contains name then withVariables names rest
    else do withVariables (names.insert name (← plainValue v)) rest

/-- **What an expression sees.** -/
def expressionVariables (o : Occasion) (zone : Zone) (now : Moment) (context : Table Value) :
    Except Fault (Table Value) := do
  withVariables (← expressionBase o zone now) context

/-! ## Answers -/

/-- Whether a stored value has the text after a sign. -/
def hasText (lookup : String → Value) (value : String) : Except Fault Bool := do
  match halves '=' value with
  | (key, some expected) => return (← (lookup key).toText) = expected
  | (_, none) => return false

/-- Whether a stored value compares with the number after a sign. -/
def compares (sign : Char) (holds : Number → Number → Bool) (lookup : String → Value)
    (value : String) : Bool :=
  match halves sign value with
  | (key, some bound) => holds (lookup key).toNumber (number bound)
  | (_, none) => false

/-- Whether chance is below so many percent. -/
def chance (value : String) : Act World Bool :=
  match Number.leading? value with
  | none => return false
  | some percent => do
    let x ← World.roll
    return (Number.double (x.mul (Double.ofInt 100))).less percent

/-- Whether the message matches a pattern. -/
def matchesPattern (pattern text : String) : Act World Bool := do
  match ← World.pattern? pattern with
  | some p => return p.occurs text.toList
  | none => return false

/-- **The answer to a question** about a rendered value. -/
def answer (kind : Kind) (varName : String) (o : Occasion) (value : String) : Act World Bool := do
  let w ← Act.look
  let user := o.event.userId
  match kind with
  | .contains => return occursIn value.toList o.text.toList
  | .equals => return o.text = value
  | .regex => matchesPattern value o.text
  | .random => chance value
  | .userId => return user = value
  | .groupId => return o.event.groupId = some value
  | .varEquals => return (← Act.of (w.valueOf varName).toText) = value
  | .varGreater => return (← Act.of (variableNumber w.context varName)).greater (number value)
  | .varLess => return (← Act.of (variableNumber w.context varName)).less (number value)
  | .dataEquals => Act.of (hasText (w.store.userValue user · (.text "")) value)
  | .dataGreater => return compares '>' Number.greater (w.store.userValue user · (.int 0)) value
  | .dataLess => return compares '<' Number.less (w.store.userValue user · (.int 0)) value
  | .dataIsToday =>
    return (← Act.of (w.store.userValue user value (.text "")).toText) = w.now.dateText
  | .cooldown => Act.of (hasCooled w.store user w.zone w.now value)
  | .timeRange => Act.of (inRange value w.now.hour)
  | .weekdayIn => Act.of (namesDay w.now.weekday (splitOn ['|'] value.toList))
  | .globalEquals => Act.of (hasText (w.store.globalValue · (.text "")) value)
  | .globalGreater => return compares '>' Number.greater (w.store.globalValue · (.int 0)) value
  | .expression => do
    let names ← Act.of (expressionVariables o w.zone w.now w.context)
    Act.of (Expr.holds value names)

/-- **The node `condition`**: whether its question is answered with yes. An unknown one is, and one
that fails is not. -/
def evaluate (p : ConditionParams) (o : Occasion) : Act World Bool :=
  match Kind.ofName? p.conditionType with
  | none => return true
  | some kind => do
    let result ← Act.attempt (do
      let value ← Template.render o p.value
      answer kind p.varName o value)
    match result with
    | .ok b => return b
    | .error _ =>
      World.note (.conditionError p.conditionType)
      return false

end ChatFlow.Condition
