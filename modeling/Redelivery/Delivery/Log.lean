/-
  Redelivery.Delivery.Log
  ───────────────────────
  **What a listener writes to the log.**

  Three things are worth a line: a failed record and where it goes, a record
  that is dropped, and a dead letter that nobody else handles.
-/
import Redelivery.Record
import Redelivery.Error

namespace Redelivery

/-- The level of a log line. -/
inductive LogLevel where
  | error
  | warn
  | info
  | debug
  | trace
  deriving DecidableEq, Repr, Inhabited

/-- The level in capitals. -/
def LogLevel.label : LogLevel → String
  | .error => "ERROR"
  | .warn => "WARN"
  | .info => "INFO"
  | .debug => "DEBUG"
  | .trace => "TRACE"

/-- The name of each level in settings. -/
def LogLevel.names : List (String × LogLevel) :=
  [("error", .error), ("warn", .warn), ("info", .info), ("debug", .debug), ("trace", .trace)]

/-- What a log line reports. -/
inductive LogEvent where
  /-- A record failed at a topic and goes on to the next. -/
  | failed (topic : String) (offset : Int64) (attempt : UInt32) (failure : Failure) (next : String)
  /-- A record has nowhere left to go. -/
  | dropping (topic : String) (offset : Int64) (reason : FatalReason)
  /-- A dead letter arrived, with what its headers say about the first failure. -/
  | deadLetter (topic : String) (partition : Int32) (offset : Int64)
      (source exception text : String)
  deriving DecidableEq, Repr

/-- A line of the log. -/
structure LogEntry where
  level : LogLevel
  event : LogEvent
  deriving DecidableEq, Repr

namespace LogEvent

/-- The report of a dead letter. -/
def ofDeadLetter (r : Record) : LogEvent :=
  let header (key : String) := (r.headers.getText? key).getD ""
  .deadLetter r.topic r.partition r.offset (header Headers.sourceTopic) (header Headers.failureKind)
    (header Headers.failureMessage)

/-- The message of the line. -/
def message : LogEvent → String
  | .failed _ _ _ _ _ => "Record processing failed"
  | .dropping _ _ _ => "Dropping record, no further destination"
  | .deadLetter _ _ _ _ _ _ => "Received record in DLT"

/-- The fields of the line. -/
def fields : LogEvent → List (String × String)
  | .failed topic offset attempt failure next =>
      [("topic", topic), ("offset", toString offset), ("attempt", toString attempt),
        ("error", failure.describe), ("next", next)]
  | .dropping topic offset reason =>
      [("topic", topic), ("offset", toString offset), ("reason", reason.message)]
  | .deadLetter topic part offset source exception text =>
      [("topic", topic), ("partition", toString part), ("offset", toString offset),
        ("original_topic", source), ("exception", exception), ("header_message", text)]

end LogEvent

end Redelivery
