/-
  Redelivery.Delivery.Consumer
  ────────────────────────────
  **One consumer of one topic.**

  A consumer polls its source, holds a record that is not due yet until the
  scheduler activates it, hands it to its listener, and commits its offset
  once the listener has dealt with it.  After an error of the source it
  pauses; an error of the listener that stops consumers ends it, without a
  commit.  A consumer that was told to stop notices it while it polls,
  pauses or holds a record, never while a record is in process.
-/
import Redelivery.Bus.Scheduler
import Redelivery.Delivery.Stage

namespace Redelivery

/-- What a source answers to a poll. -/
inductive Polled where
  | record (r : Record)
  | failed (e : BusError)
  | closed
  deriving DecidableEq, Repr

/-- An event of a source that was laid down in advance: it is ready so many milliseconds after it
is asked for. -/
structure FeedEvent where
  event : Polled
  wait : Nat := 0
  deriving DecidableEq, Repr

/-- Where a consumer gets its records. -/
inductive Source where
  /-- A subscription of the broker. -/
  | subscription (id : Nat)
  /-- Events laid down in advance, and whether each commit succeeds; after the last event the
  source is silent, after the last answer commits succeed. -/
  | feed (events : List FeedEvent) (commits : List Bool)
  deriving DecidableEq, Repr

/-- What a consumer is doing. -/
inductive Phase where
  /-- Asking its source for a record, since the given time. -/
  | polling (since : Nat)
  | received (r : Record)
  /-- Sleeping off an error of the source. -/
  | pausing (wake : Nat)
  /-- Holding a record until its activation is resolved. -/
  | holding (r : Record) (activation : Nat)
  | delivering (r : Record) (d : Delivery)
  | committing (r : Record)
  | ended (result : Except Error Unit)
  /-- The handler broke down and took the consumer with it. -/
  | brokeDown
  deriving DecidableEq, Repr

/-- Whether the consumer works no more. -/
def Phase.isFinal : Phase → Bool
  | .ended _ | .brokeDown => true
  | _ => false

/-- Where the handle is by which the end of a consumer is awaited. -/
inductive Handle where
  | kept
  /-- The first stop has taken it, and awaits the end. -/
  | taken
  /-- That stop was told how the consumer ended. -/
  | spent
  deriving DecidableEq, Repr

/-- A consumer of the topic of its listener's node. -/
structure Consumer where
  listener : Listener
  handler : Handler
  group : String
  source : Source
  phase : Phase := .polling 0
  /-- The consumer was told to stop. -/
  stopping : Bool := false
  handle : Handle := .kept
  deriving DecidableEq, Repr

namespace Consumer

/-- How long a consumer pauses after an error of its source, in milliseconds. -/
def sourceErrorPause : Nat := 100

/-- The topic that is consumed. -/
def topic (c : Consumer) : String := c.listener.node.name

/-- In whose name the consumer asks for activations. -/
def owner (c : Consumer) : String := c.group ++ ":" ++ c.topic

/-- Whether the consumer counts as ended: also while a stop that has its handle still waits. -/
def isFinished (c : Consumer) : Bool := c.handle ≠ .kept || c.phase.isFinal

/-- What the end of the consumer is to those who wait for it. -/
def verdict? (c : Consumer) : Option (Except Error Unit) :=
  match c.phase with
  | .ended result => some result
  | .brokeDown => some (.error (.fatal c.topic .taskFailed))
  | _ => none

/-- The time that the consumer waits for. -/
def wake? (c : Consumer) : Option Nat :=
  match c.phase with
  | .pausing wake => some wake
  | .delivering _ d => d.wake?
  | .polling since =>
      match c.source with
      | .feed (e :: _) _ => some (since + e.wait)
      | _ => none
  | _ => none

/-- What the phase becomes after a poll. -/
def afterPoll (now : Nat) : Polled → Phase
  | .record r => .received r
  | .failed _ => .pausing (now + sourceErrorPause)
  | .closed => .ended (.ok ())

/-- What the phase becomes once the listener is done with a record. -/
def afterDelivery (r : Record) : Except Error Outcome → Phase
  | .ok _ => .committing r
  -- An error that spares the consumer gives the record up: its offset is committed all the same.
  | .error e => if e.stopsConsumer then .ended (.error e) else .committing r

end Consumer

end Redelivery
