import ChatFlow.Schedule.Agenda
import ChatFlow.Workflow.Archive
import ChatFlow.World

/-!
# The bot

What lasts from one message to the next: the world, the workflows read last, and the agenda.
-/

namespace ChatFlow

/-- **The bot.** -/
structure Bot where
  /-- the world -/
  world : World
  /-- the workflows read last -/
  remembered : Option (List Workflow)
  /-- the stamp of the file they were read from -/
  stamp : Option Nat
  /-- the tasks of the scheduler -/
  agenda : Agenda

namespace Bot

/-- The bot in a world, before it read anything. -/
def inWorldOf (w : World) : Bot := ⟨w, none, none, Agenda.empty⟩

/-- An act on the world. -/
def inWorld {α : Type} (act : Act World α) : Act Bot α :=
  act.inside Bot.world fun w bot => { bot with world := w }

/-- The archive as the bot sees it. -/
def archive (bot : Bot) : Archive :=
  ⟨bot.world.disk, bot.remembered, bot.stamp, bot.world.log⟩

/-- The bot with its archive written back. -/
def withArchive (a : Archive) (bot : Bot) : Bot :=
  { bot with
    world := { bot.world with disk := a.disk, log := a.log }
    remembered := a.remembered
    stamp := a.stamp }

/-- **An act on the archive.** -/
def inArchive {α : Type} (act : Act Archive α) : Act Bot α := act.inside archive withArchive

/-- An act that writes a note. -/
def note (n : Note) : Act Bot Unit := inWorld (World.note n)

/-- The clock. -/
def now : Act Bot Moment := Act.see fun bot => bot.world.now

/-- The seconds that the clock stands at, with their fraction. -/
def timestamp : Act Bot Double := do
  Act.of (← Act.see fun bot => bot.world.now.timestamp bot.world.zone)

end Bot

end ChatFlow
