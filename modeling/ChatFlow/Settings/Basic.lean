import ChatFlow.Value.Basic

/-!
# Settings

What the people who run the bot decide. Entries that are only shown or compared are kept as they
were written.
-/

namespace ChatFlow

/-- Limits of the workflow engine. -/
structure EngineSettings where
  /-- how many patterns are kept ready -/
  cacheSize : Int
  /-- the longest pause in seconds -/
  maxDelay : Number
  /-- how deep a walk may go -/
  maxDepth : Int
  /-- how many nodes a walk may visit -/
  maxVisits : Int
  deriving Repr

/-- Where stored values live. -/
structure StorageSettings where
  /-- `file`, or anything else for memory -/
  backend : Value
  /-- the data directory -/
  dataDir : Value
  deriving Repr

/-- How web calls are made. -/
structure WebSettings where
  /-- seconds until a call is given up -/
  timeout : Number
  /-- further attempts after a failure of the connection -/
  retries : Int
  /-- how the bot names itself -/
  userAgent : Value
  /-- what a reply about a failed call begins with -/
  failurePrefix : Value
  deriving Repr

/-- How tasks are run by the clock. -/
structure SchedulerSettings where
  /-- whether they are -/
  enabled : Value
  /-- seconds between two looks at the clock -/
  interval : Int
  deriving Repr

/-- **The settings.** -/
structure Settings where
  /-- the name of the application -/
  appName : Value
  /-- whether messages run workflows -/
  enableWorkflow : Value
  /-- whether everything is told -/
  debug : Value
  /-- asked for before workflows that fire on any text are changed -/
  masterPassword : String
  /-- the bot's own id, told to web servers -/
  botId : String
  /-- limits of the engine -/
  engine : EngineSettings
  /-- where values live -/
  storage : StorageSettings
  /-- how web calls are made -/
  web : WebSettings
  /-- how tasks are run -/
  scheduler : SchedulerSettings
  deriving Repr

namespace Settings

/-- **The settings where nothing is decided.** -/
def default : Settings where
  appName := .text "msgflow"
  enableWorkflow := .bool true
  debug := .bool false
  masterPassword := ""
  botId := ""
  engine := ⟨200, .double (Double.ofInt 10), 64, 256⟩
  storage := ⟨.text "file", .text "./data"⟩
  web := ⟨.double (Double.ofInt 10), 2, .text "Mozilla/5.0", .text "API失败: "⟩
  scheduler := ⟨.bool true, 60⟩

/-- What web servers are told about the bot. -/
def requestMeta (s : Settings) : Table Value :=
  [("bot_id", .text s.botId), ("user_id", .text s.botId)]

end Settings

end ChatFlow
