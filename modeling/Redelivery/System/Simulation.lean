/-
  Redelivery.System.Simulation
  ────────────────────────────
  **Running a system on a simulated clock.**

  Handlers follow scripts.  The simulation takes every action that is
  possible without waiting, always the first in a fixed order; only when
  nothing is possible does the clock move, to the next time at which
  something happens by itself.  All it does to the system is to take
  actions, so whatever holds of every run holds of a simulation.

  A script that never lets the system come to rest is cut off after
  `patience` actions.
-/
import Redelivery.Wiring.Provisioning

namespace Redelivery

/-! ## §1. Scripts. -/

/-- How a handler replies: for each topic the replies to successive calls, then `rest`. -/
structure Script where
  topics : List (String × List Reply) := []
  rest : Reply := {}
  deriving DecidableEq, Repr, Inhabited

namespace Script

/-- The reply to the next call for a topic. -/
def reply (s : Script) (topic : String) : Reply :=
  match s.topics.lookup topic with
  | some (r :: _) => r
  | _ => s.rest

/-- The script after a call for a topic. -/
def used (s : Script) (topic : String) : Script :=
  { s with topics := s.topics.map fun (t, replies) =>
      if t == topic then (t, replies.drop 1) else (t, replies) }

end Script

/-- A platform whose handlers follow scripts. -/
structure Simulation extends Platform where
  scripts : List (String × Script) := []
  deriving DecidableEq, Repr, Inhabited

namespace Simulation

/-- How many actions are taken before a system that does not come to rest is cut off. -/
def patience : Nat := 1000000

/-! ## §2. Handlers. -/

/-- The reply of a handler to a call with a record. -/
def reply (s : Simulation) (h : Handler) (r : Record) : Reply :=
  match h with
  | .named name => ((s.scripts.lookup name).getD {}).reply r.topic
  | .logging _ => {}

/-- A handler was called with a record. -/
def calledWith (s : Simulation) (h : Handler) (r : Record) : Simulation :=
  match h with
  | .named name =>
      { s with scripts := s.scripts.map fun (n, script) =>
          if n == name then (n, script.used r.topic) else (n, script) }
  | .logging _ => s

/-! ## §3. Taking actions. -/

/-- Replace the system. -/
def setSystem (s : Simulation) (system : System) : Simulation := { s with toSystem := system }

/-- Take an action, if it is possible. -/
def take (s : Simulation) (a : Action) : Simulation :=
  s.setSystem ((s.toSystem.step? a).getD s.toSystem)

/-- The call that a consumer is about to make. -/
def pendingCall? (c : Consumer) : Option (Handler × Record) :=
  match c.phase with
  | .delivering r (.calling _) => some (c.handler, r)
  | _ => none

/-- The next step of a consumer, with the reply of its handler if it is about to call it. -/
def goOn? (s : Simulation) (i : Nat) (c : Consumer) : Option Simulation :=
  match pendingCall? c with
  | some (h, r) =>
      (s.toSystem.step? (.proceed i { reply := s.reply h r })).map fun system =>
        (s.setSystem system).calledWith h r
  | none => (s.toSystem.step? (.proceed i {})).map s.setSystem

/-- Whether a consumer that was told to stop looks into its inbox first. -/
def looksFirst (c : Consumer) : Bool :=
  match c.phase, c.source with
  | .polling _, .subscription _ => true
  | _, _ => false

/-- One action of a consumer: it goes on, or notices a stop. -/
def stepConsumer? (s : Simulation) (i : Nat) (c : Consumer) : Option Simulation :=
  let notice (_ : Unit) := (s.toSystem.step? (.notice i)).map s.setSystem
  -- A consumer that finds a stop and a record at once may take either.  A record that waits in an
  -- inbox is taken; one that is yet to be asked for is not.
  if looksFirst c then (s.goOn? i c).orElse notice
  else (notice ()).orElse fun _ => s.goOn? i c

/-- One action of the scheduler. -/
def stepScheduler? (s : Simulation) : Option Simulation :=
  ([Action.halt, .work, .fire].findSome? s.toSystem.step?).map s.setSystem

/-- One action that is possible now, if there is one. -/
def turn? (s : Simulation) : Option Simulation :=
  -- The scheduler comes first, then the consumers in the order of their start.
  (stepScheduler? s).orElse fun _ =>
    (s.consumers.zipIdx).findSome? fun (c, i) => s.stepConsumer? i c

/-- Take actions as long as one is possible, at most so many. -/
def settleWithin (s : Simulation) : (actions : Nat) → Simulation
  | 0 => s
  | actions + 1 =>
      match s.turn? with
      | some s => s.settleWithin actions
      | none => s

/-- Take actions until none is possible without waiting. -/
def settle (s : Simulation) : Simulation := s.settleWithin patience

/-- Let time pass, without any action. -/
def moveTo (s : Simulation) (elapsed : Nat) : Simulation :=
  { s with clock := s.clock.moveTo elapsed }

/-! ## §4. Letting time pass. -/

/-- Let time pass up to `target`; whatever is due on the way happens at its time. -/
def advanceWithin (s : Simulation) (target : Nat) : (moves : Nat) → Simulation
  | 0 => s
  | moves + 1 =>
      let s := s.settle
      match s.toSystem.nextTime? with
      | some t => if t ≤ target then (s.moveTo t).advanceWithin target moves
          else (s.moveTo target).settle
      | none => (s.moveTo target).settle

/-- Let some milliseconds pass. -/
def advance (s : Simulation) (ms : Nat) : Simulation := s.advanceWithin (s.now + ms) patience

/-- Whether a consumer counts as ended. -/
def isFinished (s : Simulation) (i : Nat) : Bool :=
  match s.consumers[i]? with
  | some c => c.isFinished
  | none => true

/-- Whether a consumer works no more. -/
def hasEnded (s : Simulation) (i : Nat) : Bool :=
  match s.consumers[i]? with
  | some c => c.phase.isFinal
  | none => true

/-- Let time pass until a consumer has ended. -/
def awaitWithin (s : Simulation) (i : Nat) : (moves : Nat) → Simulation
  | 0 => s
  | moves + 1 =>
      let s := s.settle
      if s.hasEnded i then s
      else match s.toSystem.nextTime? with
        | some t => (s.moveTo t).awaitWithin i moves
        | none => s

/-- Stop a consumer and wait for its end. -/
def stop (s : Simulation) (i : Nat) : Except Error Unit × Simulation :=
  -- Told first: a holder that is woken by the cancellation must find the stop in place.
  let s := (s.take (.cancelToken i)).take (.cancelOwner i)
  match s.toSystem.step? (.takeHandle i) with
  -- The handle is gone: whoever has it is told the end.
  | none => (.ok (), s)
  | some system =>
      let s := (s.setSystem system).awaitWithin i patience
      match s.toSystem.collect? i with
      | some (answer, system) => (answer, s.setSystem system)
      | none => (.ok (), s)

/-! ## §5. A single delivery. -/

/-- Deliver a record until the delivery ends; time passes as it needs. -/
def deliverWithin (s : Simulation) (l : Listener) (h : Handler) (r : Record) (d : Delivery) :
    (steps : Nat) → Simulation × Delivery
  | 0 => (s, d)
  | steps + 1 =>
      let choice : Choice := { reply := s.reply h r }
      match d.step? none l h r choice s.toStage with
      | some (stage, next) =>
          let s := s.setSystem (s.toSystem.setStage stage)
          let s := match d with
            | .calling _ => s.calledWith h r
            | _ => s
          s.deliverWithin l h r next steps
      | none =>
          match d.wake? with
          | some wake => (s.moveTo wake).deliverWithin l h r d steps
          | none => (s, d)

/-- Deliver a record to a listener; none if its handler broke down. -/
def process (s : Simulation) (l : Listener) (h : Handler) (r : Record) :
    Option (Except Error Outcome) × Simulation :=
  let (s, d) := s.deliverWithin l h r (.start l r) patience
  (d.result?, s)

end Simulation

end Redelivery
