import ChatFlow.Act
import ChatFlow.Chat.Request
import ChatFlow.Clock.Moment
import ChatFlow.Dice
import ChatFlow.Pattern.Cache
import ChatFlow.Store.File
import ChatFlow.Web.Message

/-!
# The world of a running workflow

Everything a workflow can change or find changed: its variables, the stored values, the clock and
the chance it sees, and what it did to the chat and the web.
-/

namespace ChatFlow

/-- **The world.** -/
structure World where
  /-- the variables of the run -/
  context : Table Value := []
  /-- the stored values -/
  store : Store := Store.empty
  /-- whether stored values are kept on disk -/
  durable : Bool := false
  /-- the data directory -/
  disk : Disk := Disk.empty
  /-- chance -/
  dice : Dice
  /-- patterns that were used lately -/
  patterns : Pattern.Cache
  /-- what the web answers -/
  network : Web.Network
  /-- requests to the web, oldest first -/
  exchanges : List Web.Exchange := []
  /-- calls to the platform, oldest first -/
  calls : List Call := []
  /-- pauses in seconds, oldest first -/
  sleeps : List Number := []
  /-- notes, oldest first -/
  log : List Note := []
  /-- the clock -/
  now : Moment
  /-- the zone that the clock is set to -/
  zone : Zone := .universal

namespace World

/-- The world with nothing done or told yet. -/
def unseen (w : World) : World := { w with calls := [], sleeps := [], exchanges := [], log := [] }

/-- An act that writes a note. -/
def note (n : Note) : Act World Unit := Act.change fun w => { w with log := w.log ++ [n] }

/-- An act that writes notes. -/
def notes (ns : List Note) : Act World Unit := Act.change fun w => { w with log := w.log ++ ns }

/-! ## Variables -/

/-- The value of a variable; nothing for an unknown one. -/
def valueOf (w : World) (name : String) : Value := Value.orNull (w.context.get? name)

/-- An act that writes a variable. -/
def assign (name : String) (v : Value) : Act World Unit :=
  Act.change fun w => { w with context := w.context.insert name v }

/-! ## Chance and time -/

/-- One draw. -/
def roll : Act World Double := Act.step fun w =>
  let (x, dice) := w.dice.roll
  (x, { w with dice })

/-- A die with sides from one up. -/
def die (sides : Nat) : Act World Nat := Act.step fun w =>
  let (n, dice) := w.dice.die sides
  (n, { w with dice })

/-- One item of a list. -/
def choose (items : List String) (default : String) : Act World String := Act.step fun w =>
  let (s, dice) := w.dice.choose items default
  (s, { w with dice })

/-- The whole seconds since the start of 1970 that the clock stands at. -/
def seconds? (w : World) : Option Int := w.zone.seconds? w.now

/-- A pause. -/
def sleep (seconds : Number) : Act World Unit :=
  Act.change fun w => { w with sleeps := w.sleeps ++ [seconds] }

/-! ## Patterns -/

/-- The pattern of a text, nothing when it is malformed. -/
def pattern? (text : String) : Act World (Option Pattern.Compiled) := fun w =>
  match w.patterns.get text with
  | .ok (p, patterns) => (.done p, { w with patterns })
  | .error f => (.failed f, w)

/-! ## Stored values -/

/-- A collection written to disk, where stored values are kept there. -/
def keep (c : Collection) : Act World Unit := fun w =>
  if w.durable then
    match w.store.save c w.disk with
    | (.ok ns, disk) => (.done (), { w with disk, log := w.log ++ ns })
    | (.error f, disk) => (.failed f, { w with disk })
  else (.done (), w)

/-- The store changed, and then kept. -/
def write {α : Type} (c : Collection) (step : Store → α × Store) : Act World α := do
  let a ← Act.step fun w =>
    let (a, store) := step w.store
    (a, { w with store })
  keep c
  return a

/-- **Stored values read from the data directory**, and kept there from then on. -/
def reopen : Act World Unit := fun w =>
  match Store.load w.disk with
  | (.ok store, ns) => (.done (), { w with store, durable := true, log := w.log ++ ns })
  | (.error f, ns) => (.failed f, { w with log := w.log ++ ns })

/-- A value of a user. -/
def userValue (user key : String) (default : Value) : Act World Value :=
  Act.see fun w => w.store.userValue user key default

/-- A value for everybody. -/
def globalValue (key : String) (default : Value) : Act World Value :=
  Act.see fun w => w.store.globalValue key default

/-- A value of a user written. -/
def setUser (user key : String) (v : Value) : Act World Unit :=
  write .users fun s => ((), s.setUser user key v)

/-- A value for everybody written. -/
def setGlobal (key : String) (v : Value) : Act World Unit :=
  write .globals fun s => ((), s.setGlobal key v)

/-- A sum that was stored is kept; one that failed is a fault. -/
def settle (c : Collection) (step : Store → Except Fault Number × Store) : Act World Number := do
  let sum ← Act.step fun w =>
    let (sum, store) := step w.store
    (sum, { w with store })
  let n ← Act.of sum
  keep c
  return n

/-- A value of a user counted up. -/
def incrUser (user key : String) (amount : Number) (default : Value) : Act World Number :=
  settle .users fun s => s.incrUser user key amount default

/-- A value for everybody counted up. -/
def incrGlobal (key : String) (amount : Number) (default : Value) : Act World Number :=
  settle .globals fun s => s.incrGlobal key amount default

/-- A deletion, kept where there was something to delete. -/
def discard (c : Collection) (step : Store → Bool × Store) : Act World Bool := do
  let found ← Act.step fun w =>
    let (found, store) := step w.store
    (found, { w with store })
  if found then keep c
  return found

/-- A value of a user deleted. -/
def deleteUser (user key : String) : Act World Bool := discard .users fun s => s.deleteUser user key

/-- A value for everybody deleted. -/
def deleteGlobal (key : String) : Act World Bool := discard .globals fun s => s.deleteGlobal key

/-! ## The platform -/

/-- **A call to the platform**, recorded whatever comes of it. -/
def call (platform : Platform) (c : Call) : Act World Value := fun w =>
  let after := { w with calls := w.calls ++ [c] }
  match platform.respond w.calls c with
  | .returns v => (.done v, after)
  | .fails message => (.failed (.collaborator message), after)
  | .hangs => (.hung, after)

end World

end ChatFlow
