/-
  Syllabus.Environment.Settings
  ─────────────────────────────
  **THE SETTINGS OF THE SERVICE.**

  Every setting is read from a variable of the environment and has a value
  for when the variable is absent.  The first variable that makes no sense is
  reported, in the order in which they are read: the timeout, the size of a
  batch, the two limits of the log file, the origins.
-/
import Syllabus.Environment.Basic
import Syllabus.Notion.Client

namespace Syllabus

/-! ## §1. Faults. -/

/-- What a setting has to be. -/
inductive Requirement where
  /-- The timeout is above zero. -/
  | positiveTimeout
  /-- A batch is neither empty nor more than a request may bring. -/
  | batchSize
  /-- The log file may hold something. -/
  | positiveLogSize
  /-- The number of old log files is not below zero. -/
  | backupCount
  /-- There is an origin. -/
  | someOrigin
  /-- No origin stands for all. -/
  | plainOrigins
  deriving DecidableEq, Repr

/-- A requirement in words. -/
def Requirement.message : Requirement → String
  | .positiveTimeout => "COURSEKIT_NOTION_TIMEOUT_SECONDS must be positive."
  | .batchSize => s!"COURSEKIT_APPEND_BATCH_SIZE must be between 1 and {Notion.maxBatchSize}."
  | .positiveLogSize => "COURSEKIT_LOG_MAX_BYTES must be a positive integer."
  | .backupCount => "COURSEKIT_LOG_BACKUP_COUNT must be zero or a positive integer."
  | .someOrigin => "COURSEKIT_ALLOWED_ORIGINS must include at least one origin."
  | .plainOrigins => "COURSEKIT_ALLOWED_ORIGINS must not include wildcard origins."

/-- Why there are no settings. -/
inductive SettingsFault where
  /-- A text is not a real number. -/
  | notReal (text : String)
  /-- A text is not a whole number. -/
  | notWhole (error : Text.NumeralError)
  /-- A value does not meet its requirement. -/
  | unmet (requirement : Requirement)
  deriving DecidableEq, Repr

/-- A fault in words. -/
def SettingsFault.message : SettingsFault → String
  | .notReal text => "could not convert string to float: " ++ Text.quoted text
  | .notWhole error => error.message
  | .unmet requirement => requirement.message

/-! ## §2. Settings. -/

/-- The settings. -/
structure Settings where
  /-- What the service runs as. -/
  environment : String
  /-- Whether details are logged. -/
  debug : Bool
  /-- The origins that browsers may send requests from. -/
  allowedOrigins : List String
  /-- The token, if there is one. -/
  notionToken : Option String
  /-- The address of the remote side. -/
  notionBaseUrl : String
  /-- The version of its interface. -/
  notionVersion : String
  /-- How long a reply may take, in seconds. -/
  notionTimeout : Binary64
  /-- How many blocks are sent at a time. -/
  appendBatchSize : Int
  /-- How long a log file may get. -/
  logMaxBytes : Int
  /-- How many old log files are kept. -/
  logBackupCount : Int
  /-- Whether faults of those who ask are logged. -/
  logClientFaults : Bool
  deriving DecidableEq, Repr

namespace Settings

/-- Fails unless a condition holds. -/
def require (condition : Bool) (requirement : Requirement) : Except SettingsFault Unit :=
  if condition then .ok () else .error (.unmet requirement)

/-- The whole number in a variable. -/
def wholeNumber (e : Environment) (name absent : String) : Except SettingsFault Int :=
  (Text.readInt (e.getD name absent)).mapError .notWhole

/-- The real number in a variable. -/
def realNumber (e : Environment) (name absent : String) : Except SettingsFault Binary64 :=
  match Text.readReal? (e.getD name absent) with
  | some x => .ok x
  | none => .error (.notReal (e.getD name absent))

/-- The origins in a text, or the one of local work if there is none. -/
def origins (raw : Option String) : Except SettingsFault (List String) := do
  match raw.filter fun s => !s.isEmpty with
  | none => pure ["http://localhost:3000"]
  | some s => do
      let found := Environment.listed s
      require (!found.isEmpty) .someOrigin
      require (!found.contains "*") .plainOrigins
      pure found

/-- An optional text, trimmed; none when nothing is left of it. -/
def trimmed? (raw : Option String) : Option String :=
  (raw.map Text.strip).filter fun s => !s.isEmpty

/-- The settings in an environment. -/
def ofEnvironment (e : Environment) : Except SettingsFault Settings := do
  let timeout ← realNumber e "COURSEKIT_NOTION_TIMEOUT_SECONDS" "30"
  require (!timeout.isNonPositive) .positiveTimeout
  let batchSize ← wholeNumber e "COURSEKIT_APPEND_BATCH_SIZE" (toString Notion.maxBatchSize)
  require (decide (1 ≤ batchSize) && decide (batchSize ≤ Notion.maxBatchSize)) .batchSize
  let logMaxBytes ← wholeNumber e "COURSEKIT_LOG_MAX_BYTES" "5242880"
  require (decide (0 < logMaxBytes)) .positiveLogSize
  let logBackupCount ← wholeNumber e "COURSEKIT_LOG_BACKUP_COUNT" "10"
  require (decide (0 ≤ logBackupCount)) .backupCount
  let allowedOrigins ← origins (e.get? "COURSEKIT_ALLOWED_ORIGINS")
  pure
    { environment := Text.lower (e.getD "COURSEKIT_ENV" "development")
      debug := e.flag "COURSEKIT_DEBUG" false || e.flag "DEBUG" false
      allowedOrigins
      notionToken := trimmed? (e.get? "NOTION_TOKEN")
      notionBaseUrl :=
        Url.Base.withoutSlashes (e.getD "COURSEKIT_NOTION_BASE_URL" Notion.defaultBaseUrl)
      notionVersion := e.getD "COURSEKIT_NOTION_VERSION" Notion.interfaceVersion
      notionTimeout := timeout
      appendBatchSize := batchSize
      logMaxBytes
      logBackupCount
      logClientFaults := e.flag "COURSEKIT_LOG_HTTP_4XX" false }

/-! ## §3. The client of the settings. -/

/-- What is said when there is no token. -/
def missingToken : String := "NOTION_TOKEN is not configured."

/-- The client that the settings ask for; none when there is no token. -/
def client? (s : Settings) : Option (Except Notion.ClientFault Notion.Client) :=
  s.notionToken.map fun token => Notion.Client.ofOptions
    { token, baseUrl := s.notionBaseUrl, version := s.notionVersion, timeout := s.notionTimeout,
      batchSize := s.appendBatchSize }

end Settings

end Syllabus
