import ChatFlow.Bot
import ChatFlow.Engine.Walk

/-!
# Dispatch

A message is offered to the workflows that take part, in stored order. One that fails counts as not
matching. One that matches and stops propagation ends the offering.

Blank messages are offered to none, nor are those that have the text of the clock.
-/

namespace ChatFlow.Dispatch

/-- **How a workflow is run on a text**, and whether it matched. -/
abbrev Executor := Workflow → String → Act Bot Bool

/-- **A text offered to a workflow.** Tells whether it matched; a failure is noted, and counts as no. -/
def offer (execute : Executor) (text : String) (w : Workflow) : Act Bot Bool := do
  match ← (execute w text).attempt with
  | .error _ =>
    Bot.note (.workflowFailed w.id)
    return false
  | .ok matched =>
    if matched then Bot.note (.workflowMatched w.id)
    return matched

/-- **A text offered to workflows in order.** Tells whether one of them stopped propagation. -/
def offerAll (execute : Executor) (text : String) : List Workflow → Act Bot Bool
  | [] => return false
  | w :: rest =>
    if w.enabled then do
      let matched ← offer execute text w
      if matched && w.stopPropagation then return true else offerAll execute text rest
    else offerAll execute text rest

/-- **A message handled.** Tells whether a workflow stopped propagation. -/
def handle (settings : Settings) (execute : Executor) (e : Event) : Act Bot Bool :=
  let text := trim e.rawMessage
  if !settings.enableWorkflow.present then return false
  else if text = "" then return false
  else if Trigger.sentinels.contains text then do
    Bot.note .sentinelRejected
    return false
  else do
    let workflows ← Bot.inArchive Archive.load
    offerAll execute text workflows

/-- **The usual way to run a workflow**: walked in the chat the message came from. -/
def walker (settings : Settings) (surface : Surface) (e : Event) : Executor := fun w text =>
  Bot.inWorld (do return (← Walk.run ⟨⟨e, text⟩, surface, settings⟩ w).matched)

end ChatFlow.Dispatch
