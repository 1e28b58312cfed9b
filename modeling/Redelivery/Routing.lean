/-
  Redelivery.Routing
  ──────────────────
  **Where a failed record goes next.**

  The decision looks at the chain of the source topic that is in force.  A
  failed dead letter goes back to its topic, if it may.  On any other node a
  fatal failure, or one found after the timeout, leads to the terminal node;
  while attempts are left the record may stay; otherwise it moves on to the
  next node.
-/
import Redelivery.Topology.Registry

namespace Redelivery

/-- Difference of two times, held within 64 bits. -/
def elapsedSince (first now : Int64) : Int64 := Int64.ofIntClamp (now.toInt - first.toInt)

/-- Whether the time since the first failure exceeds the timeout, read as a signed number. -/
def timedOut (timeout : Option UInt64) (first : Option Int64) (now : Int64) : Bool :=
  match timeout, first with
  | some timeout, some first => decide (timeout.toInt64 < elapsedSince first now)
  | _, _ => false

namespace Chain

/-- Where a record goes after a failure on the node at `position`, which is neither the
dead-letter node nor without a topic. -/
def next? (c : Chain) (position : Nat) (current : Destination) (attempt : UInt32) (f : Failure)
    (first : Option Int64) (now : Int64) : Option Destination :=
  -- A fatal failure and the timeout come before the count: attempts left do not save a record.
  if c.policy.classifier.isFatal f then c.terminal?
  else if timedOut c.policy.timeout first now then c.terminal?
  else if attempt < current.maxAttempts ∧ (current.reusable ∨ c.policy.blocksOn f) then
    some current
  else c.destinations[position + 1]?

end Chain

namespace Registry

/-- The node to which a record goes that failed on the topic `current` of the chain of `source`:
`attempt` counts from 1, `first` is the time of the record's first failure. -/
def resolve (r : Registry) (source current : String) (attempt : UInt32) (f : Failure)
    (first : Option Int64) (now : Int64) : Except Error Destination :=
  match r.chain? source with
  | none => .error (.configuration (.unknownChain source))
  | some chain =>
      match chain.position? current with
      | none => .error (.routing (.notInChain current source))
      | some position =>
          match chain.destinations[position]? with
          | none => .error (.routing (.notInChain current source))
          | some node =>
              match node.role with
              -- No record is ever read from this node, so a failure on it is a mistake of wiring.
              | .noOps => .error (.routing (.failedOnNoOps source))
              | .deadLetter =>
                  if node.retriesDeadLetters ∧ ¬chain.policy.classifier.isFatal f then .ok node
                  else .error (.fatal current (.deadLetterFailed f))
              | .main | .retry =>
                  match chain.next? position node attempt f first now with
                  | some next => .ok next
                  | none => .error (.routing (.chainEnds current source))

/-- The terminal node of the chain of a source topic. -/
def terminal (r : Registry) (source : String) : Except Error Destination :=
  match (r.chain? source).bind Chain.terminal? with
  | some d => .ok d
  | none => .error (.configuration (.unknownChain source))

/-- One node of the chain of a source topic. -/
def destination? (r : Registry) (source name : String) : Option Destination :=
  (r.chain? source).bind fun c => c.get? name

end Registry

end Redelivery
