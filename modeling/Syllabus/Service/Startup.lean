/-
  Syllabus.Service.Startup
  ────────────────────────
  **START AND STOP OF THE SERVICE.**

  Before it starts, the service reads its settings and checks its environment;
  then it opens the one client that it uses until it stops.  It may start
  without a client, if the check is not enforced; the routes that need one
  then say so.
-/
import Syllabus.Environment.Contract
import Syllabus.Environment.Settings

namespace Syllabus.Service

/-- Why the service does not start. -/
inductive StartFault where
  /-- The settings make no sense. -/
  | settings (fault : SettingsFault)
  /-- The environment is refused. -/
  | refused (refusal : Contract.Refusal)
  /-- The client cannot be opened. -/
  | client (fault : Notion.ClientFault)
  deriving DecidableEq, Repr

/-- A fault in words. -/
def StartFault.message : StartFault → String
  | .settings fault => fault.message
  | .refused refusal => refusal.message
  | .client fault => fault.message

/-- Lines of the part that starts and stops the service. -/
def startLines (lines : List (Level × String)) : List LogLine :=
  lines.map fun (level, message) => ⟨.lifespan, level, message⟩

/-- What is logged about a client that is ready. -/
def readyLine (s : Settings) : Level × String :=
  (.info, s!"Notion client ready base_url={s.notionBaseUrl} version={s.notionVersion} batch_size={s.appendBatchSize}")

/-- Opens the client: with a token that is no good the service starts without one. -/
def openClient (s : Settings) : Except StartFault (Option Notion.Client) × List (Level × String) :=
  match s.client? with
  | none => (.ok none, [(.warning, "NOTION_TOKEN not set; Notion-backed routes will answer 503.")])
  | some (.ok client) => (.ok (some client), [readyLine s])
  | some (.error (.token fault)) =>
      (.ok none, [(.warning, "Notion client not created: " ++ fault.message)])
  | some (.error fault) => (.error (.client fault), [])

/-- What is logged about a refusal besides what the check itself logs. -/
def refusalLines : Contract.Refusal → List (Level × String)
  | .violated _ => [(.error, "Environment contract failed; refusing to start the service.")]
  | .unreadable _ => []

/-- Starts the service: its client, if it has one, and what is logged. -/
def start (e : Environment) : Except StartFault (Option Notion.Client) × List LogLine :=
  match Settings.ofEnvironment e with
  | .error fault => (.error (.settings fault), [])
  | .ok settings =>
      let verified := (.info, "Startup complete - logging verified.")
      match Contract.check e with
      | (.error refusal, lines) =>
          (.error (.refused refusal), startLines (verified :: lines ++ refusalLines refusal))
      | (.ok (), lines) =>
          let (client, more) := openClient settings
          (client, startLines (verified :: lines ++ more))

/-- What is logged when the service stops. -/
def stop (client : Option Notion.Client) : List LogLine :=
  match client with
  | some _ => startLines [(.info, "Notion client closed.")]
  | none => []

/-- The command that the service is run by. -/
def command (e : Environment) : List String :=
  ["uvicorn", "coursekit.main:app", "--host", "0.0.0.0", "--port", e.getD "PORT" "3000",
    "--no-server-header"]

/-- What is logged before the service is run. -/
def launchLine (e : Environment) : LogLine :=
  ⟨.entrypoint, .info, "Starting coursekit on port " ++ e.getD "PORT" "3000"⟩

end Syllabus.Service
