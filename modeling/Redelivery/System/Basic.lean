/-
  Redelivery.System.Basic
  ───────────────────────
  **The running system, in atomic steps.**

  A system is a stage with the consumers on it and the scheduler that they
  share.  An action is one atomic step of one of them, or something that
  comes from outside: a publish, a stop, the passing of time.  `step?` says
  what an action does where it is possible; any sequence of possible actions
  is a run, so an interleaving is a list of actions.

  Stopping a consumer is four actions: its token is cancelled, the
  scheduler is asked to cancel what it owns, its handle is taken, and its
  end is awaited.  A stop that finds the handle gone returns at once.
-/
import Redelivery.Delivery.Consumer

namespace Redelivery

/-- Consumers on a stage, and their scheduler. -/
structure System extends Stage where
  scheduler : Scheduler := {}
  /-- Every consumer ever started, by number. -/
  consumers : List Consumer := []
  /-- Topics to which nobody can subscribe. -/
  refused : List String := []
  deriving DecidableEq, Repr, Inhabited

/-- One atomic step. -/
inductive Action where
  /-- Somebody outside publishes a record. -/
  | publish (r : OutgoingRecord)
  /-- The next publishes are made to fail. -/
  | failNext (count : Nat)
  | createTopic (name : String) (layout : Layout)
  /-- The chains of a context are put in force. -/
  | register (c : Context)
  /-- A consumer of the broker is started. -/
  | start (l : Listener) (h : Handler) (group : String)
  /-- A consumer of events laid down in advance is started. -/
  | startFeed (l : Listener) (h : Handler) (group : String) (events : List FeedEvent)
      (commits : List Bool)
  /-- First step of a stop: the consumer is told. -/
  | cancelToken (consumer : Nat)
  /-- Second step of a stop: the scheduler is asked to cancel what the consumer owns. -/
  | cancelOwner (consumer : Nat)
  /-- Third step of a stop: the handle of the consumer is taken, if nobody has taken it before. -/
  | takeHandle (consumer : Nat)
  /-- Last step of a stop that has taken the handle: the end of the consumer is awaited. -/
  | collect (consumer : Nat)
  /-- A consumer notices that it was told to stop. -/
  | notice (consumer : Nat)
  /-- A consumer goes on. -/
  | proceed (consumer : Nat) (choice : Choice)
  /-- The scheduler works off its oldest request. -/
  | work
  /-- The scheduler fires what is due. -/
  | fire
  /-- The scheduler is asked to end. -/
  | shutdown
  /-- The scheduler ends. -/
  | halt
  /-- Time passes. -/
  | wait (elapsed : Nat)
  deriving DecidableEq, Repr

namespace System

/-- Milliseconds since the start. -/
def now (s : System) : Nat := s.clock.elapsed

/-- Replace a consumer. -/
def setConsumer (s : System) (i : Nat) (c : Consumer) : System :=
  { s with consumers := s.consumers.set i c }

/-- Replace the phase of a consumer. -/
def setPhase (s : System) (i : Nat) (c : Consumer) (phase : Phase) : System :=
  s.setConsumer i { c with phase := phase }

/-- Replace the stage. -/
def setStage (s : System) (stage : Stage) : System := { s with toStage := stage }

/-! ## §1. Sources. -/

/-- Poll the source of a consumer that has asked since the given time; none if nothing is ready. -/
def poll? (s : System) (c : Consumer) (since : Nat) : Option (Polled × System × Consumer) :=
  match c.source with
  | .subscription id =>
      match s.broker.receive id with
      | (some r, broker) => some (.record r, { s with broker := broker }, c)
      -- An empty inbox is silence, never the end of the source.
      | (none, _) => none
  | .feed [] _ => none
  | .feed (e :: rest) commits =>
      if since + e.wait ≤ s.now then some (e.event, s, { c with source := .feed rest commits })
      else none

/-- Commit the offset of a record at the source of a consumer. -/
def commitAt (s : System) (c : Consumer) (r : Record) : Bool × System × Consumer :=
  match c.source with
  | .subscription id =>
      let (answer, broker) := s.broker.commit id r.topic r.offset
      (answer.isOk, { s with broker := broker }, c)
  | .feed events [] => (true, s, { c with source := .feed events [] })
  | .feed events (ok :: rest) => (ok, s, { c with source := .feed events rest })

/-- Give up the source of a consumer. -/
def release (s : System) (c : Consumer) : System :=
  match c.source with
  | .subscription id => { s with broker := s.broker.close id }
  | .feed _ _ => s

/-! ## §2. Consumers. -/

/-- End a consumer and give up its source. -/
def finish (s : System) (i : Nat) (c : Consumer) (phase : Phase) : System :=
  (s.release c).setPhase i c phase

/-- A consumer that was told to stop ends, unless a record is in process. -/
def notice? (s : System) (i : Nat) : Option System := do
  let c ← s.consumers[i]?
  if c.stopping then
    match c.phase with
    | .polling _ | .pausing _ | .holding _ _ => some (s.finish i c (.ended (.ok ())))
    | _ => none
  else none

/-- Go to a phase; a final phase gives up the source. -/
def goTo (s : System) (i : Nat) (c : Consumer) (phase : Phase) : System :=
  if phase.isFinal then s.finish i c phase else s.setPhase i c phase

/-- The next step of a consumer; none if it has ended or has to wait. -/
def proceed? (s : System) (i : Nat) (choice : Choice) : Option System := do
  let c ← s.consumers[i]?
  match c.phase with
  | .polling since => do
      let (polled, s, c) ← s.poll? c since
      return s.goTo i c (Consumer.afterPoll s.now polled)
  | .received r =>
      match r.due? with
      | none => return s.setPhase i c (.delivering r (.start c.listener r))
      | some due =>
          -- A due time that has passed is scheduled too, with no delay.
          let delay := Scheduler.delayUntil s.clock.wall due
          let (id, scheduler) := s.scheduler.schedule s.now delay c.owner
          return { s with scheduler := scheduler }.setPhase i c (.holding r id)
  | .pausing wake => if wake ≤ s.now then some (s.setPhase i c (.polling s.now)) else none
  | .holding r id =>
      match s.scheduler.outcome? id with
      | some true => return s.setPhase i c (.delivering r (.start c.listener r))
      -- Cancelled while it holds a record: the offset stays where it is, so the record comes again.
      | some false => return s.finish i c (.ended (.ok ()))
      | none => none
  | .delivering r (.ended result) =>
      let s := s.setStage (s.note (some i) [.concluded r result])
      return s.goTo i c (Consumer.afterDelivery r result)
  | .delivering _ .brokeDown => return s.finish i c .brokeDown
  | .delivering r d => do
      let (stage, d) ← d.step? (some i) c.listener c.handler r choice s.toStage
      return (s.setStage stage).setPhase i c (.delivering r d)
  | .committing r =>
      -- A commit that fails is only remembered.
      let (ok, s, c) := s.commitAt c r
      let s := s.setStage (s.note (some i) [.committed r ok])
      return s.setPhase i c (.polling s.now)
  | .ended _ | .brokeDown => none

/-- Start a consumer of the broker; its number is the number of consumers before it. -/
def start (s : System) (l : Listener) (h : Handler) (group : String) :
    Except BusError System :=
  if s.refused.contains l.node.name then .error (.subscribe ("refused " ++ l.node.name))
  else
    let (id, broker) := s.broker.subscribe l.node.name group
    .ok { s with
      broker := broker
      consumers := s.consumers ++ [⟨l, h, group, .subscription id, .polling s.now, false, .kept⟩] }

/-- Start a consumer of events laid down in advance. -/
def startFeed (s : System) (l : Listener) (h : Handler) (group : String)
    (events : List FeedEvent) (commits : List Bool) : System :=
  { s with
    consumers := s.consumers ++ [⟨l, h, group, .feed events commits, .polling s.now, false, .kept⟩] }

/-! ## §3. Stopping. -/

/-- Tell a consumer to stop. -/
def cancelToken? (s : System) (i : Nat) : Option System := do
  let c ← s.consumers[i]?
  return s.setConsumer i { c with stopping := true }

/-- Ask the scheduler to cancel what a consumer owns. -/
def cancelOwner? (s : System) (i : Nat) : Option System := do
  let c ← s.consumers[i]?
  return { s with scheduler := s.scheduler.cancelOwner c.owner }

/-- Take the handle of a consumer, unless it is gone. -/
def takeHandle? (s : System) (i : Nat) : Option System := do
  let c ← s.consumers[i]?
  if c.handle = .kept then some (s.setConsumer i { c with handle := .taken }) else none

/-- Await the end of a consumer whose handle was taken; the end is told once. -/
def collect? (s : System) (i : Nat) : Option (Except Error Unit × System) := do
  let c ← s.consumers[i]?
  if c.handle = .taken then
    c.verdict?.map fun verdict => (verdict, s.setConsumer i { c with handle := .spent })
  else none

/-! ## §4. All steps. -/

/-- What an action does, where it is possible. -/
def step? (s : System) : Action → Option System
  | .publish r => some { s with broker := (s.broker.publish r s.clock.wall).2 }
  | .failNext count => some { s with broker := s.broker.failNext count }
  | .createTopic name layout => some { s with broker := s.broker.createTopic name layout }
  | .register c => some { s with registry := s.registry.register c }
  | .start l h group => (s.start l h group).toOption
  | .startFeed l h group events commits => some (s.startFeed l h group events commits)
  | .cancelToken i => s.cancelToken? i
  | .cancelOwner i => s.cancelOwner? i
  | .takeHandle i => s.takeHandle? i
  | .collect i => (s.collect? i).map Prod.snd
  | .notice i => s.notice? i
  | .proceed i choice => s.proceed? i choice
  | .work => (s.scheduler.work? s.now).map fun scheduler => { s with scheduler := scheduler }
  | .fire => (s.scheduler.fire? s.now).map fun scheduler => { s with scheduler := scheduler }
  | .shutdown => some { s with scheduler := s.scheduler.shutdown }
  | .halt => (s.scheduler.halt? s.now).map fun scheduler => { s with scheduler := scheduler }
  | .wait elapsed => some { s with clock := s.clock.moveTo elapsed }

/-- Take actions one after the other; none if one of them is not possible. -/
def run (s : System) : List Action → Option System
  | [] => some s
  | a :: rest => (s.step? a).bind fun s => s.run rest

/-- Systems that a run can reach. -/
inductive Reachable (start : System) : System → Prop where
  | refl : Reachable start start
  | step {s t : System} (a : Action) : Reachable start s → s.step? a = some t → Reachable start t

/-- The next time at which something can happen by itself. -/
def nextTime? (s : System) : Option Nat :=
  let scheduled := if s.scheduler.halted then none else s.scheduler.nextDue?
  let times := scheduled.toList ++ s.consumers.filterMap Consumer.wake?
  (times.filter fun t => s.now < t).min?

end System

end Redelivery
