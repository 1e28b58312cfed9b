/-
  Redelivery.Record
  ─────────────────
  **Records on a topic, and the topics that hold them.**
-/
import Redelivery.Headers

namespace Redelivery

/-- A record as it is handed in for publishing. -/
structure OutgoingRecord where
  topic : String
  partition : Option Int32 := none
  key : Option Bytes := none
  value : Option Bytes := none
  headers : Headers := {}
  deriving DecidableEq, Repr, Inhabited

/-- A record as it lies on a topic, at its offset. -/
structure Record where
  topic : String := ""
  partition : Int32 := 0
  offset : Int64 := 0
  /-- Time of publishing, epoch milliseconds. -/
  timestamp : Int64 := 0
  key : Option Bytes := none
  value : Option Bytes := none
  headers : Headers := {}
  deriving DecidableEq, Repr, Inhabited

/-- How many partitions a topic has, and how often each is kept. -/
structure Layout where
  partitions : Int32 := 1
  /-- How often each partition is kept; -1 leaves the number to the broker. -/
  replication : Int16 := 1
  deriving DecidableEq, Repr, Inhabited

/-- A topic that is to exist, with the layout it gets if it does not yet. -/
structure TopicRequest where
  name : String
  layout : Layout := {}
  deriving DecidableEq, Repr, Inhabited

/-- The time until which the headers of a record ask for it to be held. -/
def Record.due? (r : Record) : Option Int64 := r.headers.getInt64? Headers.due

end Redelivery
