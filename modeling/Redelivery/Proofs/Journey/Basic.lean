/-
  Redelivery.Proofs.Journey.Basic
  ───────────────────────────────
  **One record on its way along a chain.**

  A journey follows one record from the main node through the listeners of
  its successive nodes, until it is processed, dropped or dead-lettered.
  The results of the handler are given by the number of the call.  All else
  is up to the surroundings: moment by moment they show a stage of their own
  with its clock, broker and chains, and say how long a call takes.

      travel 0 = start,   travel (t + 1) = next (travel t) (moment t)
-/
import Redelivery.Delivery.Stage

namespace Redelivery

/-! ## §1. Surroundings. -/

/-- How the listener of each node is set up. -/
structure Crew where
  interval : Destination → UInt64
  republish : Destination → RepublishPolicy
  logLevel : Destination → LogLevel

/-- The listener of a node. -/
def Crew.listener (crew : Crew) (d : Destination) : Listener where
  node := d
  blockingInterval := crew.interval d
  republish := crew.republish d
  logLevel := crew.logLevel d

/-- What a journey meets at one moment. -/
structure Moment where
  stage : Stage
  consumer : Option Nat := none
  /-- The time that the handler takes if it is called now. -/
  delay : Nat := 0
  jitter : Nat := 0

/-- Surroundings in which a journey is not held up: the chain stays in force, a copy for one of its
topics is accepted, and time goes on. -/
structure Calm (chain : Chain) (moment : Nat → Moment) : Prop where
  inForce : ∀ t, (moment t).stage.registry.chain? chain.source = some chain
  accepted : ∀ t out, (∃ d ∈ chain.destinations, d.name = out.topic) →
    ((moment t).stage.broker.publish out (moment t).stage.clock.wall).1 = .ok ()
  time : ∀ n, ∃ later, ∀ t, later ≤ t → n ≤ (moment t).stage.clock.elapsed

/-! ## §2. Journeys. -/

/-- A record on its way. -/
structure Journey where
  node : Destination
  record : Record
  delivery : Delivery
  /-- How often the handler was called so far. -/
  calls : Nat := 0
  /-- The delays of the nodes that copies went to, in order, the terminal node apart. -/
  hops : List UInt64 := []

/-- What the handler replies if that is its result. -/
def replyOf : Option Failure → HandlerResult
  | none => .succeeded
  | some f => .failed f

/-- The calls of the handler that a step makes. -/
def Delivery.callsMade : Delivery → Nat
  | .calling _ => 1
  | _ => 0

namespace Journey

/-- The beginning of a journey, at a node. -/
def start (crew : Crew) (node : Destination) (r : Record) : Journey :=
  { node := node, record := r, delivery := .start (crew.listener node) r }

section Steps

variable (chain : Chain) (crew : Crew) (handler : String) (results : Nat → Option Failure)

/-- What the surroundings decide about a step. -/
def choice (j : Journey) (m : Moment) : Choice :=
  { reply := { result := replyOf (results j.calls), delay := m.delay }, jitter := m.jitter }

/-- The latest record of a topic is delivered to the listener of its node. -/
def arrive (j : Journey) (topic : String) (stage : Stage) : Journey :=
  match chain.get? topic, (stage.broker.records topic).getLast? with
  | some node, some r =>
      { j with
        node := node
        record := r
        delivery := .start (crew.listener node) r
        hops := j.hops ++ [node.delay] }
  | _, _ => { j with delivery := .ended (.ok (.forwarded topic)) }

/-- One moment of a journey: a step of the delivery, if one is possible, and the arrival of a copy
that went to a retry topic. -/
def next (j : Journey) (m : Moment) : Journey :=
  match j.delivery.step? m.consumer (crew.listener j.node) (.named handler) j.record
      (j.choice results m) m.stage with
  | none => j
  | some (stage, .ended (.ok (.forwarded topic))) => j.arrive chain crew topic stage
  | some (_, d) => { j with delivery := d, calls := j.calls + j.delivery.callsMade }

/-- The journey after so many moments. -/
def travel (moment : Nat → Moment) (j : Journey) : Nat → Journey
  | 0 => j
  | t + 1 => (travel moment j t).next chain crew handler results (moment t)

/-- Each journey of the path is one moment on from the one before it. -/
def Travels (moment : Nat → Moment) (path : Nat → Journey) : Prop :=
  ∀ t, path (t + 1) = (path t).next chain crew handler results (moment t)

/-- The path of a journey travels. -/
theorem travels_travel (moment : Nat → Moment) (j : Journey) :
    Travels chain crew handler results moment (travel chain crew handler results moment j) :=
  fun _ => rfl

end Steps

/-! ## §3. Single moments. -/

section Moments

variable {chain : Chain} {crew : Crew} {handler : String} {results : Nat → Option Failure}
  {j : Journey} {m : Moment} {a : UInt32} {wake : Nat} {f : Failure}

/-- A journey whose delivery cannot go on waits. -/
theorem next_of_none
    (h : j.delivery.step? m.consumer (crew.listener j.node) (.named handler) j.record
      (j.choice results m) m.stage = none) : j.next chain crew handler results m = j := by
  unfold next
  rw [h]

/-- A step that forwards nothing leaves the record at its node. -/
theorem next_of_some {stage : Stage} {d : Delivery}
    (h : j.delivery.step? m.consumer (crew.listener j.node) (.named handler) j.record
      (j.choice results m) m.stage = some (stage, d))
    (hd : ∀ topic, d ≠ .ended (.ok (.forwarded topic))) :
    j.next chain crew handler results m
      = { j with delivery := d, calls := j.calls + j.delivery.callsMade } := by
  unfold next
  rw [h]
  split
  · rename_i heq
    cases heq
  · rename_i topic heq
    cases heq
    exact absurd rfl (hd topic)
  · rename_i heq
    cases heq
    rfl

/-- A record that was forwarded arrives at its next node. -/
theorem next_of_forwarded {stage : Stage} {topic : String}
    (h : j.delivery.step? m.consumer (crew.listener j.node) (.named handler) j.record
      (j.choice results m) m.stage = some (stage, .ended (.ok (.forwarded topic)))) :
    j.next chain crew handler results m = j.arrive chain crew topic stage := by
  unfold next
  rw [h]

/-- Where a record arrives, the copy at the end of the log is delivered. -/
theorem arrive_of_getLast? {stage : Stage} {topic : String} {node : Destination} {r : Record}
    (hnode : chain.get? topic = some node)
    (hlast : (stage.broker.records topic).getLast? = some r) :
    j.arrive chain crew topic stage
      = { j with
          node := node
          record := r
          delivery := .start (crew.listener node) r
          hops := j.hops ++ [node.delay] } := by
  unfold arrive
  rw [hnode, hlast]

/-- A journey whose delivery waits for a later time does not move. -/
theorem next_of_wake (h : j.delivery.wake? = some wake) (hlate : m.stage.clock.elapsed < wake) :
    j.next chain crew handler results m = j := by
  apply next_of_none
  have hnot : ¬wake ≤ m.stage.clock.elapsed := by omega
  cases hd : j.delivery with
  | handling attempt result due =>
      rw [hd] at h
      cases h
      exact if_neg hnot
  | resting attempt due =>
      rw [hd] at h
      cases h
      exact if_neg hnot
  | publishing out outcome failures due =>
      rw [hd] at h
      cases h
      exact if_neg hnot
  | calling attempt =>
      rw [hd] at h
      cases h
  | ended result =>
      rw [hd] at h
      cases h
  | brokeDown =>
      rw [hd] at h
      cases h

/-- A journey that has ended does not move. -/
theorem next_of_ended {result : Except Error Outcome} (h : j.delivery = .ended result) :
    j.next chain crew handler results m = j := by
  apply next_of_none
  rw [h]
  rfl

/-- A call is answered with the result that is next. -/
theorem next_of_calling (h : j.delivery = .calling a) :
    j.next chain crew handler results m
      = { j with
          delivery := .handling a (replyOf (results j.calls)) (m.stage.clock.elapsed + m.delay)
          calls := j.calls + 1 } := by
  have hstep : j.delivery.step? m.consumer (crew.listener j.node) (.named handler) j.record
      (j.choice results m) m.stage
      = some (m.stage.note m.consumer [.called handler j.record],
          .handling a (replyOf (results j.calls)) (m.stage.clock.elapsed + m.delay)) := by
    rw [h]
    rfl
  rw [next_of_some hstep (fun topic hd => by cases hd), h]
  rfl

/-- After its rest a record is handled again. -/
theorem next_of_resting (h : j.delivery = .resting a wake)
    (hdue : wake ≤ m.stage.clock.elapsed) :
    j.next chain crew handler results m = { j with delivery := .calling a } := by
  have hstep : j.delivery.step? m.consumer (crew.listener j.node) (.named handler) j.record
      (j.choice results m) m.stage = some (m.stage, .calling a) := by
    rw [h]
    exact if_pos hdue
  rw [next_of_some hstep (fun topic hd => by cases hd), h]
  rfl

end Moments

end Journey

end Redelivery
