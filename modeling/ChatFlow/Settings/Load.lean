import ChatFlow.Number.Strict
import ChatFlow.Settings.Basic
import ChatFlow.Yaml.Reader

/-!
# Loading settings

Settings are written in YAML. A text may name variables of the environment as `${NAME}`; names the
environment does not know stay as they are.

* `Settings.ofText` — the settings of a text: what it leaves out is as by default, numbers may be
  written as text;
* `SettingsKeeper` — the settings loaded last, which stay in force until others are loaded.
-/

namespace ChatFlow

/-- The variables of the environment. -/
abbrev Environment := Table String

namespace Settings

/-! ## The environment -/

/-- The name of a variable after its opening sign, and the rest after the closing one. -/
def variableName? (s : List Char) : Option (String × List Char) :=
  let name := s.takeWhile isWord
  match s.dropWhile isWord with
  | '\x7d' :: rest => if name.isEmpty then none else some (String.ofList name, rest)
  | _ => none

/-- A text with its variables filled in, `skip` characters of it already done. -/
def fillChars (env : Environment) : Nat → List Char → List Char
  | _, [] => []
  | skip + 1, _ :: rest => fillChars env skip rest
  | 0, '$' :: '\x7b' :: rest =>
    match variableName? rest with
    | some (name, _) =>
      match env.get? name with
      | some text => text.toList ++ fillChars env (name.length + 2) ('\x7b' :: rest)
      | none => '$' :: fillChars env 0 ('\x7b' :: rest)
    | none => '$' :: fillChars env 0 ('\x7b' :: rest)
  | 0, c :: rest => c :: fillChars env 0 rest

/-- **A text with its variables filled in.** -/
def fillText (env : Environment) (s : String) : String := String.ofList (fillChars env 0 s.toList)

mutual

/-- **A document with the variables of its texts filled in.** Keys stay as they are. -/
def fill (env : Environment) : Value → Value
  | .text s => .text (fillText env s)
  | .list items => .list (fillItems env items)
  | .object entries => .object (fillEntries env entries)
  | v => v

/-- Items with their variables filled in. -/
def fillItems (env : Environment) : List Value → List Value
  | [] => []
  | v :: rest => fill env v :: fillItems env rest

/-- Entries with the variables of their values filled in. -/
def fillEntries (env : Environment) : List (String × Value) → List (String × Value)
  | [] => []
  | (key, v) :: rest => (key, fill env v) :: fillEntries env rest

end

/-! ## Entries -/

/-- A value that cannot be a number. -/
def noNumber {α : Type} (v : Value) : Except Fault α :=
  .error (.wrongType ("a string or a real number is needed, not '" ++ v.kindName ++ "'"))

/-- **A whole number**: places are cut off. -/
def whole : Value → Except Fault Int
  | .bool b => .ok (if b then 1 else 0)
  | .number n => n.toInteger
  | .text s => Numeral.wholeInt s
  | v => noNumber v

/-- **A number with places.** -/
def real : Value → Except Fault Number
  | .bool b => .ok (.double (Double.ofInt (if b then 1 else 0)))
  | .number n => do return .double (← n.toDouble)
  | .text s => do return .double (← Numeral.wholeReal s)
  | v => noNumber v

/-- **Text**; what is absent, false, zero or empty is blank. -/
def shown (v : Value) : Except Fault String := if v.present then v.show? else .ok ""

/-- The entries of a section; a section that is there and empty has none. -/
def part (v : Value) : Except Fault (Table Value) :=
  match v with
  | .object entries => .ok entries
  | v => if v.present then .error (.noMember v.kindName "get") else .ok []

/-- An entry read, or its default where it is left out. -/
def entry {α : Type} (entries : Table Value) (key : String) (read : Value → Except Fault α)
    (default : α) : Except Fault α :=
  match entries.get? key with
  | some v => read v
  | none => .ok default

/-- An entry kept as it is. -/
def kept (entries : Table Value) (key : String) (default : Value) : Value :=
  (entries.get? key).getD default

/-- The settings of the engine. -/
def engineOf (v : Value) : Except Fault EngineSettings := do
  let entries ← part v
  let d := default.engine
  let cacheSize ← entry entries "regex_cache_size" whole d.cacheSize
  let maxDelay ← entry entries "max_delay_seconds" real d.maxDelay
  let maxDepth ← entry entries "max_depth" whole d.maxDepth
  let maxVisits ← entry entries "max_node_visits" whole d.maxVisits
  return ⟨cacheSize, maxDelay, maxDepth, maxVisits⟩

/-- The settings of storage. -/
def storageOf (v : Value) : Except Fault StorageSettings := do
  let entries ← part v
  let d := default.storage
  return ⟨kept entries "backend" d.backend, kept entries "data_dir" d.dataDir⟩

/-- The settings of web calls. -/
def webOf (v : Value) : Except Fault WebSettings := do
  let entries ← part v
  let d := default.web
  let timeout ← entry entries "timeout" real d.timeout
  let retries ← entry entries "retries" whole d.retries
  return ⟨timeout, retries, kept entries "user_agent" d.userAgent,
    kept entries "failure_prefix" d.failurePrefix⟩

/-- The settings of the scheduler. -/
def schedulerOf (v : Value) : Except Fault SchedulerSettings := do
  let entries ← part v
  let d := default.scheduler
  let interval ← entry entries "interval_seconds" whole d.interval
  return ⟨kept entries "enabled" d.enabled, interval⟩

/-- The settings of a document. -/
def ofValue (v : Value) : Except Fault Settings := do
  let entries ← part v
  let d := default
  let masterPassword ← shown (kept entries "master_password" (.text d.masterPassword))
  let botId ← shown (kept entries "bot_id" (.text d.botId))
  let engine ← entry entries "engine" engineOf d.engine
  let storage ← entry entries "storage" storageOf d.storage
  let web ← entry entries "http" webOf d.web
  let scheduler ← entry entries "scheduler" schedulerOf d.scheduler
  return {
    appName := kept entries "app_name" d.appName
    enableWorkflow := kept entries "enable_workflow" d.enableWorkflow
    debug := kept entries "debug" d.debug
    masterPassword, botId, engine, storage, web, scheduler }

/-- **The settings of a text.** -/
def ofText (env : Environment) (text : String) : Except Fault Settings := do
  let v ← (Yaml.read text).mapError .settingsSyntax
  ofValue (fill env v)

/-- **The settings as a document.** -/
def toValue (s : Settings) : Value :=
  .object [("app_name", s.appName), ("enable_workflow", s.enableWorkflow), ("debug", s.debug),
    ("master_password", .text s.masterPassword), ("bot_id", .text s.botId),
    ("engine", .object [("regex_cache_size", .int s.engine.cacheSize),
      ("max_delay_seconds", .number s.engine.maxDelay), ("max_depth", .int s.engine.maxDepth),
      ("max_node_visits", .int s.engine.maxVisits)]),
    ("storage", .object [("backend", s.storage.backend), ("data_dir", s.storage.dataDir)]),
    ("http", .object [("timeout", .number s.web.timeout), ("retries", .int s.web.retries),
      ("user_agent", s.web.userAgent), ("failure_prefix", s.web.failurePrefix)]),
    ("scheduler", .object [("enabled", s.scheduler.enabled),
      ("interval_seconds", .int s.scheduler.interval)])]

end Settings

/-- **The settings in force.** -/
structure SettingsKeeper where
  /-- those loaded last -/
  current : Option Settings
  /-- how often settings were loaded -/
  loads : Nat

namespace SettingsKeeper

/-- The keeper of no settings. -/
def fresh : SettingsKeeper := ⟨none, 0⟩

/-- The settings of a file, or the default ones where there is none. -/
def settingsOf (env : Environment) : Option String → Except Fault Settings
  | some text => Settings.ofText env text
  | none => .ok Settings.default

/-- The keeper of settings just loaded. -/
def adopt (k : SettingsKeeper) (s : Settings) : Settings × SettingsKeeper := (s, ⟨some s, k.loads + 1⟩)

/-- **Settings loaded** from a file. They are in force from then on; a file that cannot be loaded
changes nothing. -/
def load (k : SettingsKeeper) (env : Environment) (file : Option String) :
    Except Fault (Settings × SettingsKeeper) := (settingsOf env file).map k.adopt

/-- **The settings in force**, loaded if none are. -/
def get (k : SettingsKeeper) (env : Environment) (file : Option String) :
    Except Fault (Settings × SettingsKeeper) :=
  match k.current with
  | some s => .ok (s, k)
  | none => k.load env file

/-- Settings that were loaded stay in force, whatever becomes of the file. -/
theorem get_of_load {k next : SettingsKeeper} {env : Environment} {file : Option String}
    {s : Settings} (h : k.load env file = .ok (s, next)) (later : Environment)
    (other : Option String) : next.get later other = .ok (s, next) := by
  unfold load at h
  cases hs : settingsOf env file with
  | error f => simp [hs, Except.map] at h
  | ok v =>
    simp only [hs, Except.map, adopt, Except.ok.injEq, Prod.mk.injEq] at h
    obtain ⟨rfl, rfl⟩ := h
    rfl

end SettingsKeeper

end ChatFlow
