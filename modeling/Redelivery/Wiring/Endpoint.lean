/-
  Redelivery.Wiring.Endpoint
  ──────────────────────────
  **Wiring a handler to the chains of its topics.**

  An endpoint has one consumer for every node of its chains that has a
  topic.  Main and retry nodes run the handler of the endpoint; dead letters
  go to the handler that the configuration names, or are logged.  If a
  consumer cannot be started, those started before it are stopped again.
-/
import Redelivery.System.Simulation

namespace Redelivery

/-- The consumers of some source topics. -/
structure Endpoint where
  sourceTopics : List String
  /-- The numbers of its consumers, in chain order. -/
  consumers : List Nat
  deriving DecidableEq, Repr, Inhabited

/-- The listener of a node. -/
def Application.listenerOf (a : Application) (c : Configuration) (node : Destination) : Listener where
  node := node
  blockingInterval := c.blocking.interval
  republish := a.republish
  logLevel := a.logLevel

/-- Who handles the dead letters of a configuration. -/
def Application.deadLetterHandler (a : Application) (c : Configuration) :
    Except ConfigurationFault Handler :=
  match c.deadLetterHandler with
  | some name => (a.findHandler name).map .named
  | none => .ok (.logging a.logLevel)

namespace Simulation

/-- Stop consumers one after the other; gives the first error that ended one. -/
def stopAll (s : Simulation) : List Nat → Except Error Unit × Simulation
  | [] => (.ok (), s)
  | i :: rest =>
      -- An error does not keep the others from being stopped.
      let (first, s) := s.stop i
      let (others, s) := s.stopAll rest
      match first with
      | .error e => (.error e, s)
      | .ok () => (others, s)

/-- What became of the first does not keep the others from being stopped. -/
theorem stopAll_cons (s : Simulation) (i : Nat) (rest : List Nat) :
    (s.stopAll (i :: rest)).2 = ((s.stop i).2.stopAll rest).2 := by
  show (match (s.stop i).1 with
    | .error e => ((.error e : Except Error Unit), ((s.stop i).2.stopAll rest).2)
    | .ok () => (s.stop i).2.stopAll rest).2 = _
  split
  · rfl
  · rfl

/-- Start a consumer for each listener; if one is refused, stop those started before it. -/
def startAll (s : Simulation) (group : String) (started : List Nat) :
    List (Listener × Handler) → Except Error (List Nat) × Simulation
  | [] => (.ok started, s)
  | (l, h) :: rest =>
      match s.toSystem.start l h group with
      | .ok system => (s.setSystem system).startAll group (started ++ [s.consumers.length]) rest
      -- What the stopped ones ended with is not told, only why this one was refused.
      | .error e => (.error (.bus e), (s.stopAll started).2)

/-- Wire a handler to some topics with a configuration. -/
def configureWith (s : Simulation) (a : Application) (c : Configuration) (topics : List String)
    (handler : String) : Except (Interruption Error) Endpoint × Simulation :=
  -- An unknown handler is found out before anything is created.
  match a.deadLetterHandler c with
  | .error fault => (.error (.reported (.configuration fault)), s)
  | .ok deadLetters =>
      let (declared, platform) := s.toPlatform.declareTopology c topics a.draws
      let s := { s with toPlatform := platform }
      match declared with
      | .error interruption => (.error interruption, s)
      | .ok nodes =>
          let listeners := nodes.map fun node =>
            (a.listenerOf c node, if node.isDeadLetter then deadLetters else .named handler)
          let (started, s) := s.startAll (c.group.getD a.group) [] listeners
          match started with
          | .error e => (.error (.reported e), s)
          | .ok consumers => (.ok ⟨topics, consumers⟩, s)

/-- Wire a handler to some topics with the configuration that handles them. -/
def configure (s : Simulation) (a : Application) (topics : List String) (handler : String) :
    Except (Interruption Error) Endpoint × Simulation :=
  match a.configurationFor? topics with
  | none => (.error (.reported (.configuration (.unhandled topics))), s)
  | some c => s.configureWith a c topics handler

/-- The consumer of a topic at an endpoint. -/
def consumerOf? (s : Simulation) (e : Endpoint) (topic : String) : Option Nat :=
  e.consumers.find? fun i => (s.consumers[i]?).any fun c => c.topic == topic

/-- The topics with a consumer at an endpoint, in chain order. -/
def topicsOf (s : Simulation) (e : Endpoint) : List String :=
  e.consumers.filterMap fun i => (s.consumers[i]?).map Consumer.topic

end Simulation

end Redelivery
