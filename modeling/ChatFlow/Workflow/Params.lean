import ChatFlow.Schema.Check

/-!
# Parameters of nodes

Every kind of node has a record of its own. Blank and empty entries of an authored document count
as absent, so a field falls back to its default the way an empty input box does; entries that a
record has no field for are kept beside it.

* `Params.read` — the record of a kind of node, read from the node's data;
* `Params.fields` — the record as a document again, defaults filled in.
-/

namespace ChatFlow

open Schema

namespace Params

/-- The entries of a document that are filled in. -/
def filled (data : Table Value) : Table Value :=
  data.filter fun entry => match entry.2 with
    | .null => false
    | .text s => s ≠ ""
    | _ => true

/-- The entries of a document that a record has no field for. -/
def beyond (data declared : Table Value) : Table Value :=
  data.filter fun entry => !declared.contains entry.1

/-- A text field. -/
def word (data : Table Value) (key default : String) : Fields String :=
  optional data key text default

/-- A field of any kind. -/
def loose (data : Table Value) (key : String) (default : Value) : Fields Value :=
  optional data key anything default

end Params

open Params

/-! ## Records -/

/-- **The data of a `trigger`**: when a workflow fires. -/
structure TriggerParams where
  /-- `exact`, `contains`, `startswith`, `regex`, `any`, `scheduled` or `timer` -/
  triggerType : String
  /-- what the message is compared with -/
  content : String
  /-- the same, where the content is blank -/
  value : String
  /-- entries without a field -/
  extra : Table Value
  deriving Repr

/-- **The data of a `condition`**: a question with two ways out. -/
structure ConditionParams where
  /-- the kind of question -/
  conditionType : String
  /-- what is compared with, a template -/
  value : String
  /-- the variable asked about -/
  varName : String
  /-- entries without a field -/
  extra : Table Value
  deriving Repr

/-- **The data of an `action`**: something done in the chat or on the web. -/
structure ActionParams where
  /-- the kind of action -/
  actionType : String
  /-- the main text, a template -/
  value : String
  /-- caption of an image -/
  imageText : String
  /-- name of a file -/
  fileName : String
  /-- service of a music card -/
  musicType : String
  /-- whom a moderation call is about -/
  targetUser : String
  /-- seconds of a ban -/
  banDuration : String
  /-- whether a kicked user may not come back -/
  rejectAdd : Value
  /-- whether everybody is silenced -/
  enableBan : Value
  /-- the card shown for a member -/
  cardValue : String
  /-- whether a member becomes administrator -/
  enableAdmin : Value
  /-- the message to recall -/
  messageId : String
  /-- name of a platform call -/
  apiAction : String
  /-- its parameters, a template of JSON -/
  apiParams : String
  /-- the variable for its result -/
  resultVar : String
  /-- address of a web call -/
  apiUrl : String
  /-- its method -/
  apiMethod : String
  /-- its headers, JSON or lines -/
  apiHeaders : String
  /-- its body -/
  apiBody : String
  /-- its timeout in seconds -/
  apiTimeout : Value
  /-- `json`, `text` or `binary` -/
  responseType : String
  /-- `text`, `image`, `voice`, `video` or `forward` -/
  replyType : String
  /-- the reply, a template over the response -/
  apiReply : String
  /-- entries without a field -/
  extra : Table Value
  deriving Repr

/-- **The data of a `delay`.** -/
structure DelayParams where
  /-- how long -/
  seconds : Value
  /-- entries without a field -/
  extra : Table Value
  deriving Repr

/-- **The data of a `set_var`.** -/
structure SetVarParams where
  /-- its name -/
  varName : String
  /-- its value, a template -/
  value : String
  /-- entries without a field -/
  extra : Table Value
  deriving Repr

/-- **The data of a `storage` or `global_storage`.** -/
structure StorageParams where
  /-- `get`, `set`, `incr`, `decr` or `delete` -/
  storageType : String
  /-- the key, a template -/
  key : String
  /-- the value, a template -/
  value : String
  /-- the variable for the result -/
  resultVar : String
  /-- what stands for a missing value -/
  default : Value
  /-- entries without a field -/
  extra : Table Value
  deriving Repr

/-- **The data of a `leaderboard`.** -/
structure LeaderboardParams where
  /-- `top`, `my_rank` or `count` -/
  leaderboardType : String
  /-- the ranked key -/
  key : String
  /-- how many rows -/
  limit : Value
  /-- whether the lowest comes first -/
  ascending : Value
  /-- entries without a field -/
  extra : Table Value
  deriving Repr

/-- **The data of a `math`.** -/
structure MathParams where
  /-- the operation -/
  mathType : String
  /-- first operand, a template -/
  operand1 : String
  /-- second operand, a template -/
  operand2 : String
  /-- the variable for the result -/
  resultVar : String
  /-- entries without a field -/
  extra : Table Value
  deriving Repr

/-- **The data of a `string_op`.** -/
structure StringOpParams where
  /-- the operation -/
  stringType : String
  /-- first input, a template -/
  input1 : String
  /-- second input, a template -/
  input2 : String
  /-- the pattern to replace -/
  target : String
  /-- the variable for the result -/
  resultVar : String
  /-- entries without a field -/
  extra : Table Value
  deriving Repr

/-- **The data of a `list_random`.** -/
structure ListRandomParams where
  /-- the items between bars, a template -/
  items : String
  /-- their weights between bars -/
  weights : String
  /-- the variable for the item -/
  resultVar : String
  /-- the variable for its position -/
  indexVar : String
  /-- entries without a field -/
  extra : Table Value
  deriving Repr

/-! ## Reading and showing records -/

namespace TriggerParams

/-- The fields as a document. -/
def declared (p : TriggerParams) : Table Value :=
  [("trigger_type", .text p.triggerType), ("trigger_content", .text p.content),
    ("trigger_value", .text p.value)]

/-- The record of filled entries. -/
def ofTable (data : Table Value) : Checked TriggerParams :=
  finish do
    let triggerType ← word data "trigger_type" "exact"
    let content ← word data "trigger_content" ""
    let value ← word data "trigger_value" ""
    let p : TriggerParams := ⟨triggerType, content, value, []⟩
    return { p with extra := beyond data p.declared }

/-- The text that the message is compared with. -/
def literal (p : TriggerParams) : String := if p.content ≠ "" then p.content else p.value

end TriggerParams

namespace ConditionParams

/-- The fields as a document. -/
def declared (p : ConditionParams) : Table Value :=
  [("condition_type", .text p.conditionType), ("condition_value", .text p.value),
    ("var_name", .text p.varName)]

/-- The record of filled entries. -/
def ofTable (data : Table Value) : Checked ConditionParams :=
  finish do
    let conditionType ← word data "condition_type" "contains"
    let value ← word data "condition_value" ""
    let varName ← word data "var_name" ""
    let p : ConditionParams := ⟨conditionType, value, varName, []⟩
    return { p with extra := beyond data p.declared }

end ConditionParams

namespace ActionParams

/-- The fields as a document. -/
def declared (p : ActionParams) : Table Value :=
  [("action_type", .text p.actionType), ("action_value", .text p.value),
    ("image_text", .text p.imageText), ("file_name", .text p.fileName),
    ("music_type", .text p.musicType), ("target_user", .text p.targetUser),
    ("ban_duration", .text p.banDuration), ("reject_add", p.rejectAdd),
    ("enable_ban", p.enableBan), ("card_value", .text p.cardValue),
    ("enable_admin", p.enableAdmin), ("message_id", .text p.messageId),
    ("api_action", .text p.apiAction), ("api_params", .text p.apiParams),
    ("result_var", .text p.resultVar), ("api_url", .text p.apiUrl),
    ("api_method", .text p.apiMethod), ("api_headers", .text p.apiHeaders),
    ("api_body", .text p.apiBody), ("api_timeout", p.apiTimeout),
    ("response_type", .text p.responseType), ("reply_type", .text p.replyType),
    ("api_reply", .text p.apiReply)]

/-- The record of filled entries. -/
def ofTable (data : Table Value) : Checked ActionParams :=
  finish do
    let actionType ← word data "action_type" "reply_text"
    let value ← word data "action_value" ""
    let imageText ← word data "image_text" ""
    let fileName ← word data "file_name" ""
    let musicType ← word data "music_type" "qq"
    let targetUser ← word data "target_user" ""
    let banDuration ← word data "ban_duration" ""
    let rejectAdd ← loose data "reject_add" (.bool false)
    let enableBan ← loose data "enable_ban" (.bool false)
    let cardValue ← word data "card_value" ""
    let enableAdmin ← loose data "enable_admin" (.bool false)
    let messageId ← word data "message_id" ""
    let apiAction ← word data "api_action" ""
    let apiParams ← word data "api_params" "\x7b\x7d"
    let resultVar ← word data "result_var" ""
    let apiUrl ← word data "api_url" ""
    let apiMethod ← word data "api_method" "GET"
    let apiHeaders ← word data "api_headers" ""
    let apiBody ← word data "api_body" ""
    let apiTimeout ← loose data "api_timeout" (.int 10)
    let responseType ← word data "response_type" "json"
    let replyType ← word data "reply_type" "text"
    let apiReply ← word data "api_reply" ""
    let p : ActionParams := ⟨actionType, value, imageText, fileName, musicType, targetUser,
      banDuration, rejectAdd, enableBan, cardValue, enableAdmin, messageId, apiAction, apiParams,
      resultVar, apiUrl, apiMethod, apiHeaders, apiBody, apiTimeout, responseType, replyType,
      apiReply, []⟩
    return { p with extra := beyond data p.declared }

end ActionParams

namespace DelayParams

/-- The fields as a document. -/
def declared (p : DelayParams) : Table Value := [("seconds", p.seconds)]

/-- The record of filled entries. -/
def ofTable (data : Table Value) : Checked DelayParams :=
  finish do
    let seconds ← loose data "seconds" (.int 1)
    let p : DelayParams := ⟨seconds, []⟩
    return { p with extra := beyond data p.declared }

end DelayParams

namespace SetVarParams

/-- The fields as a document. -/
def declared (p : SetVarParams) : Table Value :=
  [("var_name", .text p.varName), ("var_value", .text p.value)]

/-- The record of filled entries. -/
def ofTable (data : Table Value) : Checked SetVarParams :=
  finish do
    let varName ← word data "var_name" ""
    let value ← word data "var_value" ""
    let p : SetVarParams := ⟨varName, value, []⟩
    return { p with extra := beyond data p.declared }

end SetVarParams

namespace StorageParams

/-- The fields as a document. -/
def declared (p : StorageParams) : Table Value :=
  [("storage_type", .text p.storageType), ("storage_key", .text p.key),
    ("storage_value", .text p.value), ("result_var", .text p.resultVar),
    ("default_value", p.default)]

/-- The record of filled entries. -/
def ofTable (data : Table Value) : Checked StorageParams :=
  finish do
    let storageType ← word data "storage_type" "get"
    let key ← word data "storage_key" ""
    let value ← word data "storage_value" ""
    let resultVar ← word data "result_var" ""
    let default ← loose data "default_value" (.int 0)
    let p : StorageParams := ⟨storageType, key, value, resultVar, default, []⟩
    return { p with extra := beyond data p.declared }

end StorageParams

namespace LeaderboardParams

/-- The fields as a document. -/
def declared (p : LeaderboardParams) : Table Value :=
  [("leaderboard_type", .text p.leaderboardType), ("leaderboard_key", .text p.key),
    ("limit", p.limit), ("ascending", p.ascending)]

/-- The record of filled entries. -/
def ofTable (data : Table Value) : Checked LeaderboardParams :=
  finish do
    let leaderboardType ← word data "leaderboard_type" "top"
    let key ← word data "leaderboard_key" "score"
    let limit ← loose data "limit" (.int 10)
    let ascending ← loose data "ascending" (.bool false)
    let p : LeaderboardParams := ⟨leaderboardType, key, limit, ascending, []⟩
    return { p with extra := beyond data p.declared }

end LeaderboardParams

namespace MathParams

/-- The fields as a document. -/
def declared (p : MathParams) : Table Value :=
  [("math_type", .text p.mathType), ("operand1", .text p.operand1),
    ("operand2", .text p.operand2), ("result_var", .text p.resultVar)]

/-- The record of filled entries. -/
def ofTable (data : Table Value) : Checked MathParams :=
  finish do
    let mathType ← word data "math_type" "add"
    let operand1 ← word data "operand1" "0"
    let operand2 ← word data "operand2" "0"
    let resultVar ← word data "result_var" "math_result"
    let p : MathParams := ⟨mathType, operand1, operand2, resultVar, []⟩
    return { p with extra := beyond data p.declared }

end MathParams

namespace StringOpParams

/-- The fields as a document. -/
def declared (p : StringOpParams) : Table Value :=
  [("string_type", .text p.stringType), ("input1", .text p.input1), ("input2", .text p.input2),
    ("target", .text p.target), ("result_var", .text p.resultVar)]

/-- The record of filled entries. -/
def ofTable (data : Table Value) : Checked StringOpParams :=
  finish do
    let stringType ← word data "string_type" "concat"
    let input1 ← word data "input1" ""
    let input2 ← word data "input2" ""
    let target ← word data "target" ""
    let resultVar ← word data "result_var" "string_result"
    let p : StringOpParams := ⟨stringType, input1, input2, target, resultVar, []⟩
    return { p with extra := beyond data p.declared }

end StringOpParams

namespace ListRandomParams

/-- The fields as a document. -/
def declared (p : ListRandomParams) : Table Value :=
  [("list_items", .text p.items), ("weights", .text p.weights),
    ("result_var", .text p.resultVar), ("index_var", .text p.indexVar)]

/-- The record of filled entries. -/
def ofTable (data : Table Value) : Checked ListRandomParams :=
  finish do
    let items ← word data "list_items" ""
    let weights ← word data "weights" ""
    let resultVar ← word data "result_var" "list_result"
    let indexVar ← word data "index_var" "list_index"
    let p : ListRandomParams := ⟨items, weights, resultVar, indexVar, []⟩
    return { p with extra := beyond data p.declared }

end ListRandomParams

/-! ## Any kind of node -/

/-- Whose stored values a node works on. -/
inductive StorageScope where
  /-- the sender's -/
  | user
  /-- everybody's -/
  | everyone
  deriving DecidableEq, Repr

/-- **The record of a node**, by what the node does. -/
inductive Params where
  /-- fires the workflow -/
  | trigger (p : TriggerParams)
  /-- asks a question -/
  | condition (p : ConditionParams)
  /-- acts in the chat or on the web -/
  | action (p : ActionParams)
  /-- pauses -/
  | delay (p : DelayParams)
  /-- writes a variable -/
  | setVar (p : SetVarParams)
  /-- reads and writes stored values -/
  | storage (scope : StorageScope) (p : StorageParams)
  /-- ranks users -/
  | leaderboard (p : LeaderboardParams)
  /-- computes a number -/
  | math (p : MathParams)
  /-- computes text -/
  | stringOp (p : StringOpParams)
  /-- picks an item -/
  | listRandom (p : ListRandomParams)
  /-- does nothing -/
  | inert (data : Table Value)
  deriving Repr

namespace Params

/-- The record as a document: fields first, then the entries without a field. -/
def fields : Params → Table Value
  | .trigger p => p.declared ++ p.extra
  | .condition p => p.declared ++ p.extra
  | .action p => p.declared ++ p.extra
  | .delay p => p.declared ++ p.extra
  | .setVar p => p.declared ++ p.extra
  | .storage _ p => p.declared ++ p.extra
  | .leaderboard p => p.declared ++ p.extra
  | .math p => p.declared ++ p.extra
  | .stringOp p => p.declared ++ p.extra
  | .listRandom p => p.declared ++ p.extra
  | .inert data => data

/-- The record of an action: an action that computes has the record of the computing node. -/
def ofAction (data : Table Value) : Checked Params :=
  match data.get? "action_type" with
  | some (.text "math") => (MathParams.ofTable data).map .math
  | some (.text "string_op") => (StringOpParams.ofTable data).map .stringOp
  | _ => (ActionParams.ofTable data).map .action

/-- The record of a kind of node from filled entries. -/
def ofTable (kind : String) (data : Table Value) : Checked Params :=
  match kind with
  | "trigger" => (TriggerParams.ofTable data).map .trigger
  | "condition" => (ConditionParams.ofTable data).map .condition
  | "action" => ofAction data
  | "delay" => (DelayParams.ofTable data).map .delay
  | "set_var" => (SetVarParams.ofTable data).map .setVar
  | "storage" => (StorageParams.ofTable data).map (.storage .user)
  | "global_storage" => (StorageParams.ofTable data).map (.storage .everyone)
  | "leaderboard" => (LeaderboardParams.ofTable data).map .leaderboard
  | "math" => (MathParams.ofTable data).map .math
  | "string_op" => (StringOpParams.ofTable data).map .stringOp
  | "list_random" => (ListRandomParams.ofTable data).map .listRandom
  | _ => .ok (.inert data)

/-- **The record of a kind of node**, from the node's data. -/
def read (kind : String) (data : Table Value) : Checked Params := ofTable kind (filled data)

end Params

end ChatFlow
