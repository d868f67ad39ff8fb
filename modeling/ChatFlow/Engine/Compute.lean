import ChatFlow.Number.Power
import ChatFlow.Pattern.Matcher
import ChatFlow.Template.Render
import ChatFlow.Workflow.Params

/-!
# Computing nodes

The nodes `math`, `string_op` and `list_random`, which compute a number, a text or a choice and write
it into a variable, and the nodes `set_var` and `delay`.
-/

namespace ChatFlow.Compute

/-! ## Numbers -/

/-- An operation on two numbers. -/
inductive MathKind where
  /-- sum -/
  | add
  /-- difference -/
  | sub
  /-- product -/
  | mul
  /-- quotient, zero when the divisor is -/
  | div
  /-- remainder, zero when the divisor is -/
  | mod
  /-- power -/
  | pow
  /-- the lesser -/
  | min
  /-- the greater -/
  | max
  /-- a whole step above the first, up to the second, by chance -/
  | random
  deriving DecidableEq, Repr

/-- The operation that `math_type` names. -/
def MathKind.ofName? : String → Option MathKind
  | "add" => some .add
  | "sub" => some .sub
  | "mul" => some .mul
  | "div" => some .div
  | "mod" => some .mod
  | "pow" => some .pow
  | "min" => some .min
  | "max" => some .max
  | "random" => some .random
  | _ => none

/-- Remainder, zero when the divisor is; that of an infinity is not a number. -/
def remainder (x y : Number) : Except Fault Number := do
  if y.isZero then return .int 0
  if ← x.isInfinite then return Number.nan
  return .double (← x.rem y)

/-- The lesser, the first of equals. -/
def lesser (x y : Number) : Number :=
  if x.isNaN || y.isNaN then Number.nan else if y.less x then y else x

/-- The greater, the first of equals. -/
def greater (x y : Number) : Number :=
  if x.isNaN || y.isNaN then Number.nan else if y.greater x then y else x

/-- Whether chance can choose between two bounds. -/
def bounded (a b : Number) : Except Fault Bool := do
  if a.isNaN || b.isNaN then return false
  if ← a.isInfinite then return false
  return !(← b.isInfinite)

/-- The whole number below. -/
def floor : Number → Except Fault Int
  | .int n => .ok n
  | .double x =>
    match x.floor? with
    | some n => .ok n
    | none => .error (if x.isNaN then .nanToInteger else .infinityToInteger)

/-- The result of `random`: a bound raised by a share of the way to the other, in whole steps. -/
def between (a b : Number) (draw : Double) : Except Fault Number := do
  let span ← (← b.sub a).add (.int 1)
  let steps ← floor (← (Number.double draw).mul span)
  (Number.int steps).add a

/-- **The result of an operation of `math`**; without an operation, the first number. -/
def arithmetic (kind : Option MathKind) (a b : Number) : Act World Number :=
  match kind with
  | some .add => Act.of (a.add b)
  | some .sub => Act.of (a.sub b)
  | some .mul => Act.of (a.mul b)
  | some .div => if b.isZero then return .int 0 else Act.of (a.div b)
  | some .mod => Act.of (remainder a b)
  | some .pow => return a.power b
  | some .min => return lesser a b
  | some .max => return greater a b
  | some .random => do
    if ← Act.of (bounded a b) then
      let draw ← World.roll
      Act.of (between a b draw)
    else return Number.nan
  | none => return a

/-- The number that a rendered operand is taken for. -/
def operand (o : Occasion) (template : String) : Act World Number := do
  return (Value.text (← Template.render o template)).toNumber

/-- **The node `math`**: both operands are rendered, and the result is written, without its fraction
where it has none. -/
def math (p : MathParams) (o : Occasion) : Act World Unit := do
  let a ← operand o p.operand1
  let b ← operand o p.operand2
  let result ← arithmetic (MathKind.ofName? p.mathType) a b
  World.assign p.resultVar (.number result.tidy)

/-! ## Text -/

/-- An operation on text. -/
inductive TextKind where
  /-- both inputs joined -/
  | concat
  /-- matches of the pattern replaced by the second input -/
  | replace
  /-- the first input cut at the second -/
  | split
  /-- characters between two positions -/
  | substr
  /-- how many characters -/
  | length
  /-- capital letters -/
  | upper
  /-- small letters -/
  | lower
  /-- without white space around it -/
  | trim
  /-- whether the second input occurs -/
  | contains
  /-- the first input so many times -/
  | times
  deriving DecidableEq, Repr

/-- The operation that `string_type` names. -/
def TextKind.ofName? : String → Option TextKind
  | "concat" => some .concat
  | "replace" => some .replace
  | "split" => some .split
  | "substr" => some .substr
  | "length" => some .length
  | "upper" => some .upper
  | "lower" => some .lower
  | "trim" => some .trim
  | "contains" => some .contains
  | "repeat" => some .times
  | _ => none

/-- A position in a text of a length, counted from the end when negative. -/
def position (length : Nat) (n : Int) : Nat :=
  if n < 0 then (n + length).toNat else min n.toNat length

/-- The characters from one position up to another. -/
def slice (s : List Char) (start : Int) (stop : Option Int) : List Char :=
  let first := position s.length start
  let last := (stop.map (position s.length)).getD s.length
  (s.take last).drop first

/-- The integer of a text, unless it is zero or none. -/
def nonzero? (s : List Char) : Except Fault (Option Int) := do
  match ← Number.leadingInt? (String.ofList s) with
  | some 0 => return none
  | n => return n

/-- The result of `substr`: the part of a text that two positions around a comma name. -/
def substring (s bounds : List Char) : Except Fault (List Char) := do
  let bounds := if bounds.isEmpty then ['0'] else bounds
  match ← (splitOn [','] bounds).mapM fun b => nonzero? (trimChars b) with
  | start :: stop :: _ => return slice s (start.getD 0) stop
  | [start] => return slice s (start.getD 0) none
  | [] => return s

/-- The most times that `repeat` writes a text. -/
def maxRepeat : Int := 100

/-- The result of `repeat`: a text so many times, and once without a number. -/
def repeated (s count : List Char) : Except Fault (List Char) := do
  let times := ((← nonzero? count).getD 1)
  return (List.replicate (min times maxRepeat).toNat s).flatten

/-- The result of `split`: the first part of a text that is cut. All parts are kept in
variables. -/
def splitText (a b : List Char) : Act World Value := do
  let parts := splitOn (if b.isEmpty then ['|'] else b) a
  World.assign "split_list" (.list (parts.map fun s => .text (String.ofList s)))
  World.assign "split_count" (.int parts.length)
  return .text (String.ofList (parts.headD []))

/-- The result of `contains`, which is kept in a variable as well. -/
def occurrence (a b : List Char) : Act World Value := do
  let found := occursIn b a
  World.assign "contains" (.bool found)
  return .text (if found then "1" else "0")

/-- The result of `replace`: matches of a pattern replaced, of which a malformed one has none. -/
def replaced (target : String) (a b : List Char) : Act World Value := do
  match ← World.pattern? target with
  | some pattern => return .text (String.ofList (pattern.replaceAll b a))
  | none => return .text (String.ofList a)

/-- **The result of an operation of `string_op`**; without an operation, the first input. -/
def textual (kind : Option TextKind) (target a b : String) : Act World Value :=
  match kind with
  | some .concat => return .text (a ++ b)
  | some .replace => replaced target a.toList b.toList
  | some .split => splitText a.toList b.toList
  | some .substr => do return .text (String.ofList (← Act.of (substring a.toList b.toList)))
  | some .length => return .int (units16 a.toList)
  | some .upper => return .text (upperText a)
  | some .lower => return .text (lowerText a)
  | some .trim => return .text (trim a)
  | some .contains => occurrence a.toList b.toList
  | some .times => do return .text (String.ofList (← Act.of (repeated a.toList b.toList)))
  | none => return .text a

/-- **The node `string_op`**: both inputs are rendered, and the result is written. -/
def stringOp (p : StringOpParams) (o : Occasion) : Act World Unit := do
  let a ← Template.render o p.input1
  let b ← Template.render o p.input2
  let result ← textual (TextKind.ofName? p.stringType) p.target a b
  World.assign p.resultVar result

/-! ## Choices -/

/-- The entries between bars that are not blank. -/
def entries (s : List Char) : List (List Char) :=
  ((splitOn ['|'] s).map trimChars).filter fun e => !e.isEmpty

/-- The weights between bars, if all of them are numbers. -/
def weightsOf? (s : String) : Option (List Number) :=
  (splitOn ['|'] s.toList).mapM fun w => Number.leading? (String.ofList (trimChars w))

/-- The sum of weights: they are added up from the left, every sum on the way is rounded, and what
rounding loses is not made up for. -/
def total (weights : List Number) : Except Fault Number :=
  weights.foldlM Number.add (.int 0)

/-- The first position whose weights so far reach a mark. -/
def reach (mark : Number) : Nat → Number → List Number → Except Fault (Option Nat)
  | _, _, [] => .ok none
  | i, sum, w :: rest => do
    let sum ← sum.add w
    if mark.atMost sum then return some i else reach mark (i + 1) sum rest

/-- **A position chosen by weights** from a draw, if they reach it. -/
def weighted (weights : List Number) (draw : Double) : Except Fault (Option Nat) := do
  let mark ← (Number.double draw).mul (← total weights)
  reach mark 0 (.int 0) weights

/-- A position chosen by weights, where each item has one. -/
def byWeights (p : ListRandomParams) (count : Nat) : Act World (Option Nat) :=
  match weightsOf? p.weights with
  | some weights =>
    if p.weights ≠ "" && weights.length = count then do
      let draw ← World.roll
      Act.of (weighted weights draw)
    else return none
  | none => return none

/-- An item and its position written into the variables. -/
def pick (p : ListRandomParams) (items : List (List Char)) (i : Nat) : Act World Unit := do
  World.assign p.resultVar (.text (String.ofList (items.getD i [])))
  World.assign p.indexVar (.int i)

/-- **The node `list_random`**: an item of the rendered list is chosen, by weights where each has one
and the draw falls to one of them, and otherwise evenly. -/
def listRandom (p : ListRandomParams) (o : Occasion) : Act World Unit := do
  let items := entries (← Template.render o p.items).toList
  if items.isEmpty then
    World.assign p.resultVar (.text "")
    World.assign p.indexVar (.int (-1))
  else
    match ← byWeights p items.length with
    | some i => pick p items i
    | none =>
      let draw ← World.roll
      pick p items (Dice.scaled draw items.length)

/-! ## Variables and pauses -/

/-- **The node `set_var`**: a rendered value is written into a variable. -/
def setVar (p : SetVarParams) (o : Occasion) : Act World Unit :=
  if p.varName = "" then return ()
  else do World.assign p.varName (.text (← Template.render o p.value))

/-- The seconds of a pause, held between none and a limit. -/
def pause (limit seconds : Number) : Number :=
  let seconds := if seconds.isNaN then .int 0 else seconds
  let least := if limit.less seconds then limit else seconds
  if least.greater (.int 0) then least else .int 0

/-- **The node `delay`**: a pause, of a second where none is given. -/
def delay (p : DelayParams) (limit : Number) : Act World Unit := do
  let seconds := if ← Act.of p.seconds.truthy then p.seconds.toNumber else .int 1
  World.sleep (pause limit seconds)

end ChatFlow.Compute
