/-
  Syllabus.Main
  ─────────────
  **THE COMMAND LINE.**

  Says on the error stream that the service is started, and on the output the
  command that runs it, a word on a line.
-/
import Syllabus.Service.Startup

namespace Syllabus

/-- The environment as far as the command depends on it. -/
def launchEnvironment : IO Environment := do
  match ← IO.getEnv "PORT" with
  | some port => pure [("PORT", port)]
  | none => pure []

/-- A line of the log as the console shows it. -/
def consoleLine (line : LogLine) : String :=
  s!"{line.level.name}:{line.channel.name}:{line.message}"

end Syllabus

/-- Says how the service is run. -/
def main : IO Unit := do
  let environment ← Syllabus.launchEnvironment
  IO.eprintln (Syllabus.consoleLine (Syllabus.Service.launchLine environment))
  for word in Syllabus.Service.command environment do
    IO.println word
