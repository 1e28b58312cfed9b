/-
  Redelivery.Wiring.Application
  ─────────────────────────────
  **The configurations of an application and the chains they stand for.**

  Configurations are added one by one; each must hold together, and a topic
  may be listed by one configuration only.  For some topics the first
  configuration that handles them all is responsible.  Its delays are found
  once, and every topic gets a chain with the same delays.
-/
import Redelivery.Settings.Basic
import Redelivery.Topology.Registry

namespace Redelivery

/-- What an application has been set up with. -/
structure Application where
  configurations : List Configuration := []
  /-- The group of consumers whose configuration names none. -/
  group : String := "retrytopic"
  logLevel : LogLevel := .error
  republish : RepublishPolicy := {}
  /-- The handlers known by name. -/
  handlers : List String := []
  /-- The random words not used yet. -/
  draws : Draws := Draws.ofSeed 0

namespace Application

/-! ## §1. Configurations. -/

/-- The first topic of a configuration that an accepted one lists already. -/
def conflict? (accepted : List Configuration) (c : Configuration) : Option String :=
  c.topics.find? fun topic => accepted.any fun other => other.topics.contains topic

/-- Add a configuration. -/
def addConfiguration (a : Application) (c : Configuration) :
    Except ConfigurationFault Application :=
  match c.validate with
  | .error fault => .error (.options fault)
  | .ok () =>
      match conflict? a.configurations c with
      | some topic => .error (.topicInTwo topic)
      | none => .ok { a with configurations := a.configurations ++ [c] }

/-- Add configurations up to the first that is refused. -/
def addConfigurations (a : Application) (l : List Configuration) :
    Except ConfigurationFault Application :=
  l.foldlM addConfiguration a

/-- The application that settings describe. -/
def ofSettings (s : Settings) : Except ConfigurationFault Application :=
  addConfigurations
    { group := s.connection.group, logLevel := s.logLevel, republish := s.republish }
    s.configurations

/-- The first configuration that handles every topic. -/
def configurationFor? (a : Application) (topics : List String) : Option Configuration :=
  a.configurations.find? fun c => topics.all c.handles

/-- A handler of that name must be known. -/
def findHandler (a : Application) (name : String) : Except ConfigurationFault String :=
  if a.handlers.contains name then .ok name else .error (.unknownHandler name)

/-- The application after the chains of a configuration were built: their random words are not
used again. -/
def afterDraws (a : Application) (c : Configuration) : Application :=
  { a with draws := a.draws.skip c.maxAttempts.toNat }

end Application

/-! ## §2. Chains. -/

namespace Configuration

/-- The levels of every chain of a configuration with these delays. -/
def levels (c : Configuration) (delays : List UInt64) : List Level :=
  Level.forChain delays c.blocking.attempts c.deadLetters c.retryDeadLetters

/-- The chains of some topics; nothing is put in force. -/
def buildTopology (c : Configuration) (topics : List String) (draws : Draws) :
    Except (Interruption ConfigurationFault) Context :=
  match c.validate with
  | .error fault => .error (.reported (.options fault))
  | .ok () =>
      if topics.isEmpty then .error (.reported .noTopics)
      else
        match c.backoff.generate c.maxAttempts draws with
        | .error fault => .error (.reported (.backoff fault))
        | .ok delays =>
            -- The delays were drawn above, once for all topics.
            topics.foldlM (fun context topic =>
              context.process topic (c.levels delays) c.naming c.policy) {}

end Configuration

end Redelivery
