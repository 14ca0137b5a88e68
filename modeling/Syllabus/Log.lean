/-
  Syllabus.Log
  ────────────
  **LOG LINES AS DATA.**

  Every part of the service writes to a channel of its own.  A line has a
  channel, a level and a message.
-/

namespace Syllabus

/-- The parts of the service that write log lines. -/
inductive Channel where
  /-- Text with styles. -/
  | richText
  /-- Blocks. -/
  | blocks
  /-- Course templates. -/
  | templates
  /-- The compiler. -/
  | compiler
  /-- Delivery of compiled courses. -/
  | materializer
  /-- Calls to the remote side. -/
  | client
  /-- The course routes. -/
  | courses
  /-- The page routes. -/
  | pages
  /-- Requests and responses. -/
  | middleware
  /-- Start and stop of the service. -/
  | lifespan
  /-- Logging itself. -/
  | logging
  /-- Faults that end a request. -/
  | server
  /-- The command line. -/
  | entrypoint
  deriving DecidableEq, Repr

/-- The name of a channel. -/
def Channel.name : Channel → String
  | .richText => "coursekit.services.rich_text"
  | .blocks => "coursekit.services.blocks"
  | .templates => "coursekit.services.templates"
  | .compiler => "coursekit.services.compiler"
  | .materializer => "coursekit.services.materializer"
  | .client => "coursekit.services.notion_client"
  | .courses => "coursekit.api.routes.courses"
  | .pages => "coursekit.api.routes.pages"
  | .middleware => "coursekit.core.middleware"
  | .lifespan => "coursekit.core.lifespan"
  | .logging => "coursekit.core.logging"
  | .server => "uvicorn.error"
  | .entrypoint => "entrypoint"

/-- How much a line matters. -/
inductive Level where
  /-- For those who look for a fault. -/
  | debug
  /-- The normal course of things. -/
  | info
  /-- Something to look at. -/
  | warning
  /-- Something that failed. -/
  | error
  deriving DecidableEq, Repr

/-- The name of a level. -/
def Level.name : Level → String
  | .debug => "DEBUG"
  | .info => "INFO"
  | .warning => "WARNING"
  | .error => "ERROR"

/-- A line of the log. -/
structure LogLine where
  /-- Who wrote it. -/
  channel : Channel
  /-- How much it matters. -/
  level : Level
  /-- What it says. -/
  message : String
  deriving DecidableEq, Repr

end Syllabus
