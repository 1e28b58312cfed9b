/-
  Redelivery.Delivery.Stage
  ─────────────────────────
  **One delivery of a record, in atomic steps.**

  A delivery calls the handler, waits for its reply, and then ends, rests
  before the next call, or publishes a copy, trying again after a pause as
  long as its policy allows.  Each step is one of these moments, taken on a
  stage: the clock, the chains in force, the broker, and a journal of what
  happened.

  What the surroundings decide (how a handler replies, how long a random
  pause is) is the argument `choice` of a step, so a statement about all
  choices is a statement about all handlers.
-/
import Redelivery.Bus.Broker
import Redelivery.Clock
import Redelivery.Delivery.Listener

namespace Redelivery

/-- Who handles the records of a listener. -/
inductive Handler where
  /-- A handler of the surroundings, known by its name. -/
  | named (name : String)
  /-- Logs dead letters and never fails. -/
  | logging (level : LogLevel)
  deriving DecidableEq, Repr, Inhabited

/-- Something worth remembering. -/
inductive Event where
  /-- A handler was called with a record. -/
  | called (handler : String) (record : Record)
  | logged (entry : LogEntry)
  /-- The listener of a consumer dealt with a record, or could not. -/
  | concluded (record : Record) (result : Except Error Outcome)
  /-- The offset of a record was committed, or could not be. -/
  | committed (record : Record) (ok : Bool)
  deriving DecidableEq, Repr

/-- A remembered event: when it happened, and at which consumer. -/
structure JournalEntry where
  time : Nat
  consumer : Option Nat := none
  event : Event
  deriving DecidableEq, Repr

/-- What deliveries work on. -/
structure Stage where
  clock : Clock := {}
  registry : Registry := {}
  broker : Broker := {}
  /-- What happened, oldest first. -/
  journal : List JournalEntry := []
  deriving DecidableEq, Repr, Inhabited

/-- Remember events of this moment. -/
def Stage.note (s : Stage) (consumer : Option Nat) (events : List Event) : Stage :=
  { s with journal := s.journal ++ events.map fun e => ⟨s.clock.elapsed, consumer, e⟩ }

namespace JournalEntry

/-- The record of a call of that handler. -/
def callOf? (handler : String) (e : JournalEntry) : Option Record :=
  match e.event with
  | .called name r => if name = handler then some r else none
  | _ => none

/-- The line that was logged. -/
def line? (e : JournalEntry) : Option LogEntry :=
  match e.event with
  | .logged entry => some entry
  | _ => none

/-- The record whose offset was to be committed, and whether it was. -/
def commit? (e : JournalEntry) : Option (Record × Bool) :=
  match e.event with
  | .committed r ok => some (r, ok)
  | _ => none

end JournalEntry

namespace Stage

/-- The calls of a handler with their times, oldest first. -/
def calls (s : Stage) (handler : String) : List (Nat × Record) :=
  s.journal.filterMap fun e => (e.callOf? handler).map fun r => (e.time, r)

/-- The commits with their times, oldest first. -/
def commits (s : Stage) : List (Nat × Record × Bool) :=
  s.journal.filterMap fun e => e.commit?.map fun c => (e.time, c)

/-- The lines of the log, oldest first. -/
def log (s : Stage) : List LogEntry := s.journal.filterMap JournalEntry.line?

end Stage

/-- How far a delivery has come. -/
inductive Delivery where
  /-- The handler is about to be called. -/
  | calling (attempt : UInt32)
  /-- The handler replies at time `wake`. -/
  | handling (attempt : UInt32) (result : HandlerResult) (wake : Nat)
  /-- The handler is called again at time `wake`. -/
  | resting (attempt : UInt32) (wake : Nat)
  /-- A copy is published at time `wake`, after `failures` failed tries. -/
  | publishing (outgoing : OutgoingRecord) (outcome : Outcome) (failures : Nat) (wake : Nat)
  | ended (result : Except Error Outcome)
  /-- The handler broke down. -/
  | brokeDown
  deriving DecidableEq, Repr

/-- What the surroundings decide about a step. -/
structure Choice where
  reply : Reply := {}
  /-- The random part of a pause. -/
  jitter : Nat := 0
  deriving DecidableEq, Repr, Inhabited

namespace Delivery

/-- The beginning of a delivery. -/
def start (l : Listener) (r : Record) : Delivery := .calling (l.firstAttempt r)

/-- The time that the delivery waits for. -/
def wake? : Delivery → Option Nat
  | .handling _ _ wake | .resting _ wake | .publishing _ _ _ wake => some wake
  | _ => none

/-- How the delivery ended; none while it goes on, and if the handler broke down. -/
def result? : Delivery → Option (Except Error Outcome)
  | .ended result => some result
  | _ => none

/-- Call the handler. -/
def call (consumer : Option Nat) (h : Handler) (r : Record) (attempt : UInt32) (choice : Choice)
    (s : Stage) : Stage × Delivery :=
  let now := s.clock.elapsed
  match h with
  -- Logging takes no time and cannot fail, so `choice` plays no part.
  | .logging level =>
      (s.note consumer [.logged ⟨level, .ofDeadLetter r⟩], .handling attempt .succeeded now)
  | .named name =>
      (s.note consumer [.called name r],
        .handling attempt choice.reply.result (now + choice.reply.delay))

/-- Take the reply of the handler. -/
def conclude (consumer : Option Nat) (l : Listener) (r : Record) (attempt : UInt32)
    (result : HandlerResult) (s : Stage) : Stage × Delivery :=
  let now := s.clock.elapsed
  match result with
  | .succeeded => (s, .ended (.ok .processed))
  | .brokeDown => (s, .brokeDown)
  | .failed f =>
      -- The chains are looked up now: a registration since the last attempt is already seen.
      let (verdict, entry) := l.verdict s.registry s.clock.wall r attempt f
      let s := s.note consumer (entry.toList.map .logged)
      match verdict with
      | .again => (s, .resting (attempt + 1) (now + l.blockingInterval.toNat))
      | .finish result => (s, .ended result)
      | .republish outgoing outcome => (s, .publishing outgoing outcome 0 now)

/-- Try to publish the copy. -/
def publish (l : Listener) (outgoing : OutgoingRecord) (outcome : Outcome) (failures : Nat)
    (choice : Choice) (s : Stage) : Stage × Delivery :=
  let (answer, broker) := s.broker.publish outgoing s.clock.wall
  let s := { s with broker := broker }
  match answer with
  | .ok () => (s, .ended (.ok outcome))
  | .error e =>
      match l.republish.pause? failures choice.jitter with
      | some pause => (s, .publishing outgoing outcome (failures + 1) (s.clock.elapsed + pause))
      | none => (s, .ended (.error (.fatal l.node.name (.notRepublished outgoing.topic e))))

/-- The next step of a delivery; none if it has ended, or waits for a later time. -/
def step? (consumer : Option Nat) (l : Listener) (h : Handler) (r : Record) (choice : Choice)
    (s : Stage) : Delivery → Option (Stage × Delivery)
  | .calling attempt => some (call consumer h r attempt choice s)
  | .handling attempt result wake =>
      if wake ≤ s.clock.elapsed then some (conclude consumer l r attempt result s) else none
  | .resting attempt wake => if wake ≤ s.clock.elapsed then some (s, .calling attempt) else none
  | .publishing outgoing outcome failures wake =>
      if wake ≤ s.clock.elapsed then some (publish l outgoing outcome failures choice s) else none
  | .ended _ | .brokeDown => none

end Delivery

end Redelivery
