/-
  Syllabus.Service.Logging
  ────────────────────────
  **WHERE THE LOG GOES.**

  Everything that is logged goes to the console and to a file.  The loggers of
  the server write there directly and not once more through the root; the
  logger of the web client is quiet below warnings.  The file is moved away
  when it would get too long, and backups are told apart by a number.

      LogSetup        how logging is set up
      LogFile.write   one more record in the file
      tracebackText   an error with those that it came from, cut when long
-/
import Syllabus.Environment.Settings
import Syllabus.Service.Detail

namespace Syllabus.Service

/-! ## §1. Names of files. -/

/-- The text before the last `sep` and the text after it, if there is one. -/
def cutLast? (sep : Char) (cs : List Char) : Option (List Char × List Char) :=
  match Text.cutAt sep cs.reverse with
  | some (after, before) => some (before.reverse, after.reverse)
  | none => none

/-- The name of a backup: its number stands after a dash instead of a point. -/
def backupName (name : String) : String :=
  match cutLast? '.' name.toList with
  | some (base, number) =>
      if !base.isEmpty && Text.isAllDigits (String.ofList number) then
        String.ofList base ++ "-" ++ String.ofList number
      else name
  | none => name

/-- The name of the log file that is begun at a moment. -/
def logFileName (moment : String) : String := "coursekit_" ++ moment ++ ".log"

/-- What is in the way of a directory. -/
inductive Obstacle where
  /-- There is a file of that name. -/
  | fileExists
  /-- Something on the way to it is a file. -/
  | notADirectory
  deriving DecidableEq, Repr

/-- The number and the name of an obstacle. -/
def Obstacle.reason : Obstacle → String
  | .fileExists => "[Errno 17] File exists"
  | .notADirectory => "[Errno 20] Not a directory"

/-- What is said when the directory of the log cannot be created. -/
def directoryFault (directory : String) (o : Obstacle) : String :=
  "Failed to create log directory at " ++ directory ++ ": " ++ o.reason ++ ": "
    ++ Text.quoted directory

/-! ## §2. The setup. -/

/-- Where records are written to. -/
inductive Sink where
  /-- The console. -/
  | console
  /-- A file that is moved away when it gets too long. -/
  | file
  deriving DecidableEq, Repr

/-- How errors are written. -/
inductive ErrorStyle where
  /-- The head and the end. -/
  | cut
  /-- As a whole. -/
  | whole
  deriving DecidableEq, Repr

/-- A logger that writes to the sinks itself. -/
structure Rerouted where
  /-- Its name. -/
  name : String
  /-- How many sinks it writes to. -/
  sinks : Nat
  /-- Whether its records go on to the root. -/
  propagates : Bool
  deriving DecidableEq, Repr

/-- How logging is set up. -/
structure LogSetup where
  /-- The least level that is logged. -/
  level : Nat
  /-- The sinks, each with how it writes errors. -/
  sinks : List (Sink × ErrorStyle)
  /-- How long the file may get. -/
  maxBytes : Int
  /-- How many backups are kept. -/
  backupCount : Int
  /-- The loggers that write to the sinks themselves. -/
  rerouted : List Rerouted
  /-- Loggers with a least level of their own. -/
  quiet : List (String × Nat)
  deriving DecidableEq, Repr

/-- The number of a level. -/
def levelNumber : Level → Nat
  | .debug => 10
  | .info => 20
  | .warning => 30
  | .error => 40

/-- The name of the level of a number. -/
def levelNameOf (n : Nat) : String :=
  match n with
  | 0 => "NOTSET"
  | 10 => "DEBUG"
  | 20 => "INFO"
  | 30 => "WARNING"
  | 40 => "ERROR"
  | 50 => "CRITICAL"
  | n => s!"Level {n}"

/-- The loggers of the server. -/
def serverLoggers : List String := ["uvicorn", "uvicorn.error", "uvicorn.access", "fastapi"]

/-- The logger of the web client. -/
def webClientLogger : String := "httpx"

/-- The setup that the settings ask for. -/
def LogSetup.ofSettings (s : Settings) : LogSetup :=
  let sinks := [(Sink.console, ErrorStyle.cut), (Sink.file, ErrorStyle.whole)]
  { level := levelNumber (if s.debug then .debug else .info)
    sinks
    maxBytes := s.logMaxBytes
    backupCount := s.logBackupCount
    rerouted := serverLoggers.map fun name => ⟨name, sinks.length, false⟩
    quiet := [(webClientLogger, levelNumber .warning)] }

/-! ## §3. Records. -/

/-- A record, with the number of its level and the name of its logger. -/
structure Record where
  /-- The number of its level. -/
  level : Nat
  /-- The name of its logger, empty for the root. -/
  logger : String
  /-- What it says. -/
  message : String
  deriving DecidableEq, Repr

/-- Whether a logger is another one or below it. -/
def isWithin (name ancestor : String) : Bool :=
  name = ancestor || Text.startsWith name (ancestor ++ ".")

/-- The least level that is logged of a logger. -/
def LogSetup.levelOf (s : LogSetup) (logger : String) : Nat :=
  match s.quiet.find? fun (name, _) => isWithin logger name with
  | some (_, level) => level
  | none => s.level

/-- Whether a record is logged. -/
def LogSetup.admits (s : LogSetup) (r : Record) : Bool := decide (s.levelOf r.logger ≤ r.level)

/-- A record on a line, after its time. -/
def Record.line (r : Record) : String :=
  (if r.logger.isEmpty then "root" else r.logger) ++ " - " ++ levelNameOf r.level ++ " - " ++ r.message

/-- How many characters a line has in front of the name of its logger: the time of day and a
dash. -/
def timeWidth : Nat := 11

/-- The log file: its lines, each after its time. -/
structure LogFile where
  /-- The lines. -/
  lines : List String := []
  deriving DecidableEq, Repr

/-- How many bytes the file has. -/
def LogFile.size (f : LogFile) : Nat :=
  (f.lines.map fun l => timeWidth + l.utf8ByteSize + 1).foldr (· + ·) 0

/-- Whether the file is moved away before a line is written: with the line it would not be shorter
than it may get. -/
def LogFile.isFull (f : LogFile) (setup : LogSetup) (line : String) : Bool :=
  decide (setup.maxBytes ≤ (f.size + timeWidth + line.length + 1 : Nat))
    && decide (0 < setup.backupCount)

/-- Writes a record. -/
def LogFile.write (setup : LogSetup) (f : LogFile) (r : Record) : LogFile :=
  if setup.admits r then
    let kept := if f.isFull setup r.line then [] else f.lines
    ⟨kept ++ [r.line]⟩
  else f

/-! ## §4. Once per process. -/

/-- What a process knows about its log. -/
structure LogState where
  /-- The log file. -/
  path : Option String := none
  /-- Whether logging is set up. -/
  initialized : Bool := false
  deriving DecidableEq, Repr

/-- A truth value in words. -/
def truthText (b : Bool) : String := if b then "True" else "False"

/-- Sets logging up unless that has been done: the state and what is logged. -/
def LogState.ensure (state : LogState) (settings : Settings) (path : String) :
    LogState × List LogLine :=
  if state.initialized then (state, [])
  else
    (⟨some path, true⟩,
      [⟨.logging, .info,
        "Logging initialized. Writing to " ++ path ++ " (debug=" ++ truthText settings.debug ++ ")"⟩])

/-! ## §5. Errors in the log. -/

/-- How an error came from the one before it. -/
inductive Origin where
  /-- It was raised because of it. -/
  | cause
  /-- It was raised while it was handled. -/
  | context
  deriving DecidableEq, Repr

/-- What stands between an error and the one before it. -/
def Origin.text : Origin → String
  | .cause => "\nThe above exception was the direct cause of the following exception:\n\n"
  | .context => "\nDuring handling of the above exception, another exception occurred:\n\n"

/-- An error in a chain. -/
structure ChainedError where
  /-- Its kind. -/
  kind : String
  /-- What it was raised with. -/
  arguments : List Detail
  /-- How it came from the one before it. -/
  origin : Origin

/-- An error as a piece of text. -/
def ChainedError.piece (e : ChainedError) : String := Detail.faultLine e.kind e.arguments ++ "\n"

/-- The pieces of a chain, the oldest error first. -/
def chainPieces : List ChainedError → List String
  | [] => []
  | first :: rest => first.piece :: rest.flatMap fun e => [e.origin.text, e.piece]

/-- How many pieces a text may have before it is cut. -/
def maxPieces : Nat := 6

/-- The pieces that are kept at the end. -/
def keptPieces : Nat := 5

/-- Pieces of which, if there are too many, only the first and the last are kept. -/
def cutPieces (pieces : List String) : List String :=
  if maxPieces < pieces.length then
    pieces.take 1 ++ ["    ...\n"] ++ pieces.drop (pieces.length - keptPieces)
  else pieces

/-- A chain of errors in the log. -/
def tracebackText (chain : List ChainedError) : String := String.join (cutPieces (chainPieces chain))

end Syllabus.Service
