import ChatFlow.Pattern.Matcher
import ChatFlow.Workflow.Params
import ChatFlow.World

/-!
# Triggers

Whether a workflow fires for a text, and what it captured from it.
-/

namespace ChatFlow.Trigger

/-- The texts by which the scheduler starts a workflow. -/
def sentinels : List String := ["__scheduled__", "__scheduled_trigger__"]

/-- The triggers that only the scheduler fires. -/
def clockKinds : List String := ["scheduled", "timer"]

/-- The triggers that fire on any text. -/
def masterKinds : List String := ["regex", "any", "scheduled", "timer"]

/-- No captures, where a question is answered with yes. -/
def firesWhen (b : Bool) : Option (List String) := if b then some [] else none

/-- Whether one of the words between bars occurs in a text. -/
def namesAny (words text : List Char) : Bool :=
  ((splitOn ['|'] words).map trimChars).any fun word => !word.isEmpty && occursIn word text

/-- **Whether a trigger fires for a text**, with its captures. -/
def fires (p : TriggerParams) (text : String) : Act World (Option (List String)) :=
  if sentinels.contains text then return some []
  else if clockKinds.contains p.triggerType || p.literal = "" then return none
  else match p.triggerType with
    | "exact" => return firesWhen (text = p.literal)
    | "contains" => return firesWhen (occursIn p.literal.toList text.toList)
    | "startswith" => return firesWhen (startsWith p.literal.toList text.toList)
    | "any" => return firesWhen (namesAny p.literal.toList text.toList)
    | "regex" => do
      match ← World.pattern? p.literal with
      | some pattern => return pattern.captures? text.toList
      | none => return none
    | _ => return none

end ChatFlow.Trigger
