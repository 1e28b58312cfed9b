/-
  Redelivery.Delivery.Listener
  ────────────────────────────
  **What a listener makes of a failed record.**

  A listener serves one node of a chain.  At a plain node attempts are
  counted in place, from 1; at a reused node and at the dead-letter node
  they are counted across deliveries, in a header.  After a failure the
  registry says where the record goes: it is handled again in place, or
  published to its next topic, or dropped.

  A published copy keeps the key, the value and all headers of the record.
  Seven headers about the first failure are added where they are absent; the
  delivery count and the due time are set anew on every hop.
-/
import Redelivery.Backoff.Republish
import Redelivery.Delivery.Log
import Redelivery.Routing

namespace Redelivery

/-- What became of a record. -/
inductive Outcome where
  /-- The handler succeeded. -/
  | processed
  /-- Published to a retry topic, perhaps the same one again. -/
  | forwarded (topic : String)
  /-- Published to the dead-letter topic. -/
  | deadLettered (topic : String)
  | dropped
  deriving DecidableEq, Repr, Inhabited

/-- What a handler gives back. -/
inductive HandlerResult where
  | succeeded
  | failed (f : Failure)
  /-- The handler broke down, and the task with it. -/
  | brokeDown
  deriving DecidableEq, Repr, Inhabited

/-- The result of a handler and the time it takes, in milliseconds. -/
structure Reply where
  result : HandlerResult := .succeeded
  delay : Nat := 0
  deriving DecidableEq, Repr, Inhabited

/-- Serves one node of a chain. -/
structure Listener where
  node : Destination
  /-- Milliseconds between attempts in place. -/
  blockingInterval : UInt64 := 0
  republish : RepublishPolicy := {}
  logLevel : LogLevel := .error
  deriving DecidableEq, Repr, Inhabited

namespace Listener

/-- The number of the first attempt at a record. -/
def firstAttempt (l : Listener) (r : Record) : UInt32 :=
  if l.node.countsDeliveries then r.headers.attempt else 1

/-! ## §1. The next hop. -/

/-- A number of attempts as it is written, at most the largest signed 32-bit number. -/
def writtenAttempt (attempt : UInt32) : Int32 :=
  if attempt ≤ 2147483647 then attempt.toInt32 else 2147483647

/-- The due time of a record published at `now` with a delay; never beyond 64 bits. -/
def dueTime (now : Int64) (delay : UInt64) : Int64 :=
  if delay ≤ longestDelay then Int64.ofIntClamp (now.toInt + delay.toNat) else Int64.maxValue

/-- Add what is known about the first failure, where it is absent. -/
def describeFirstFailure (l : Listener) (r : Record) (f : Failure) (now : Int64) : Headers :=
  r.headers
    |>.insertIfAbsent Headers.sourceTopic (.ofText l.node.source)
    |>.insertIfAbsent Headers.failureKind (.ofText f.kind)
    |>.insertIfAbsent Headers.failureMessage (.ofText f.message)
    |>.insertIfAbsent Headers.failureSummary (.ofText f.summary)
    |>.insertIfAbsent Headers.firstFailureTime (.ofInt64 now)
    |>.insertIfAbsent Headers.firstPartition (.ofInt32 r.partition)
    |>.insertIfAbsent Headers.firstOffset (.ofInt64 r.offset)

/-- The copy of a record that goes to its next node. -/
def outgoing (l : Listener) (r : Record) (f : Failure) (next : Destination)
    (nextAttempt : UInt32) (now : Int64) : OutgoingRecord where
  topic := next.name
  key := r.key
  value := r.value
  headers := (l.describeFirstFailure r f now)
    |>.insertInt32 Headers.attempts (writtenAttempt nextAttempt)
    |>.insertInt64 Headers.due (dueTime now next.delay)

/-- What a record that was published to a node has come to. -/
def outcomeOf (next : Destination) : Outcome :=
  if next.isDeadLetter then .deadLettered next.name else .forwarded next.name

/-! ## §2. The verdict on a failure. -/

/-- What follows a failed attempt. -/
inductive Verdict where
  /-- The handler is called again in place. -/
  | again
  /-- The record is dealt with, or cannot be. -/
  | finish (result : Except Error Outcome)
  /-- A copy is published. -/
  | republish (outgoing : OutgoingRecord) (outcome : Outcome)

/-- The verdict on attempt number `attempt` at a record, which failed at time `now`, and what is
logged about it. -/
def verdict (l : Listener) (registry : Registry) (now : Int64) (r : Record) (attempt : UInt32)
    (f : Failure) : Verdict × Option LogEntry :=
  let first := r.headers.getInt64? Headers.firstFailureTime
  match registry.resolve l.node.source l.node.name attempt f first now with
  -- A dead letter that failed for good is dropped, so its consumer goes on.
  | .error (.fatal topic reason) =>
      (.finish (.ok .dropped), some ⟨l.logLevel, .dropping topic r.offset reason⟩)
  | .error e => (.finish (.error e), none)
  | .ok next =>
      let stays := next.name == l.node.name
      -- Where deliveries are counted, even a stay is a copy: the header has to carry the count.
      if stays && !l.node.countsDeliveries then (.again, none)
      else
        let entry : LogEntry := ⟨l.logLevel, .failed l.node.name r.offset attempt f next.name⟩
        if next.isNoOps then (.finish (.ok .dropped), some entry)
        else
          -- A new node counts its own attempts.
          let nextAttempt := if stays then attempt + 1 else 1
          (.republish (l.outgoing r f next nextAttempt now) (outcomeOf next), some entry)

end Listener

end Redelivery
