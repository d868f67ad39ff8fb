import ChatFlow.Value.Basic

/-!
# Notes

What is worth telling the people who run the bot. A note names what happened and to what.
-/

namespace ChatFlow

/-- **Something worth telling.** -/
inductive Note where
  /-- a node failed and the walk went on -/
  | nodeFailed (workflow node kind : String)
  /-- a walk came to its limits -/
  | walkBounded (workflow node : String) (depth visits : Nat)
  /-- a workflow failed and the next one was tried -/
  | workflowFailed (workflow : String)
  /-- a workflow matched a message -/
  | workflowMatched (workflow : String)
  /-- a condition could not be answered and does not hold -/
  | conditionError (kind : String)
  /-- a moderation or platform call failed -/
  | actionCallFailed (action : String)
  /-- a text of the scheduler came in as chat -/
  | sentinelRejected
  /-- a turn of the scheduler failed -/
  | cycleFailed
  /-- an entry of the workflow file is not a workflow -/
  | workflowSkipped (workflow : Value)
  /-- an entry of the task file is not a task -/
  | taskSkipped (task : String)
  /-- a task failed -/
  | taskFailed (task : String)
  /-- a message could not be sent -/
  | sendFailed (action : String)
  /-- a call on the group failed -/
  | groupActionFailed (action : String)
  /-- a message could not be recalled -/
  | recallFailed
  /-- a platform call failed -/
  | platformCallFailed (action : String)
  /-- a web call of a workflow failed -/
  | webCallFailed
  /-- the workflows could not be written -/
  | workflowsUnsaved
  /-- the workflows could not be read -/
  | workflowsUnread
  /-- stored values could not be written -/
  | valuesUnsaved (collection : String)
  /-- stored values could not be read -/
  | valuesUnread (collection : String)
  /-- stored values are not in the form of a map -/
  | valuesShapeless (collection : String)
  /-- the tasks could not be written -/
  | tasksUnsaved
  /-- the tasks could not be read -/
  | tasksUnread
  /-- another attempt at a web call -/
  | webRetry (attempt : Nat)
  deriving Repr

/-- **The name of a note and what it tells**, as they are logged. -/
def Note.entry : Note → String × Table Value
  | .nodeFailed workflow node kind => ("node_failed",
      [("workflow_id", .text workflow), ("node_id", .text node), ("kind", .text kind)])
  | .walkBounded workflow node depth visits => ("walk_bounded",
      [("workflow_id", .text workflow), ("node_id", .text node), ("depth", .int depth),
        ("visits", .int visits)])
  | .workflowFailed workflow => ("workflow_failed", [("workflow_id", .text workflow)])
  | .workflowMatched workflow => ("workflow_matched", [("workflow_id", .text workflow)])
  | .conditionError kind => ("condition_error", [("kind", .text kind)])
  | .actionCallFailed action => ("action_call_failed", [("action", .text action)])
  | .sentinelRejected => ("scheduled_sentinel_rejected", [])
  | .cycleFailed => ("scheduler_cycle_error", [])
  | .workflowSkipped workflow => ("workflow_skipped", [("workflow_id", workflow)])
  | .taskSkipped task => ("scheduled_task_skipped", [("task_id", .text task)])
  | .taskFailed task => ("scheduled_task_failed", [("task_id", .text task)])
  | .sendFailed action => ("reply_send_failed", [("action", .text action)])
  | .groupActionFailed action => ("group_action_failed", [("action", .text action)])
  | .recallFailed => ("recall_failed", [])
  | .platformCallFailed action => ("call_api_failed", [("action", .text action)])
  | .webCallFailed => ("custom_api_failed", [])
  | .workflowsUnsaved => ("workflows_save_failed", [])
  | .workflowsUnread => ("workflows_load_failed", [])
  | .valuesUnsaved collection => ("file_store_flush_failed", [("collection", .text collection)])
  | .valuesUnread collection => ("file_store_load_error", [("collection", .text collection)])
  | .valuesShapeless collection => ("file_store_bad_shape", [("collection", .text collection)])
  | .tasksUnsaved => ("scheduled_tasks_save_failed", [])
  | .tasksUnread => ("scheduled_tasks_load_failed", [])
  | .webRetry attempt => ("http_retry", [("attempt", .int attempt)])

end ChatFlow
