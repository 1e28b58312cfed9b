/-
  Redelivery.Configuration.Basic
  ──────────────────────────────
  **How a set of source topics is to be retried.**

  A configuration names the topics it is for (none listed means every
  topic), the attempts and the backoff, how topics are named and created,
  which kinds of failure are worth retrying, and what is done with dead
  letters.  `validate` gives the first contradiction; the derived values
  (naming, classifier, routing policy) are what a chain is built from.
-/
import Redelivery.Backoff.Basic
import Redelivery.Topology.Chain

namespace Redelivery

/-- Whether and how missing topics are created. -/
structure AutoCreate where
  enabled : Bool := true
  /-- Taken from the main topic when unset. -/
  partitions : Option Int32 := none
  /-- Taken from the main topic when unset. -/
  replication : Option Int16 := none
  deriving DecidableEq, Repr, Inhabited

/-- Retries at a node without leaving it. -/
structure Blocking where
  /-- Attempts per node, the first included. -/
  attempts : UInt32 := 1
  /-- Milliseconds between two attempts. -/
  interval : UInt64 := 0
  /-- Kinds retried this way; none listed means every kind that is not fatal. -/
  retryOn : List String := []
  deriving DecidableEq, Repr, Inhabited

/-- How a set of source topics is retried. -/
structure Configuration where
  /-- Topics this is for; none listed means every topic. -/
  topics : List String := []
  excludeTopics : List String := []
  /-- Deliveries in all: the main topic and one per retry level. -/
  attempts : UInt32 := 3
  backoff : Backoff := .default
  retrySuffix : String := "-retry"
  deadLetterSuffix : String := "-dlt"
  suffixing : Suffixing := .index
  reuse : TopicReuse := .multiple
  autoCreate : AutoCreate := {}
  /-- Only these kinds are retried; excludes `notRetryOn`. -/
  retryOn : List String := []
  /-- Kinds that are not retried. -/
  notRetryOn : List String := []
  traversingCauses : Bool := false
  /-- Declared parents of kinds, each child once. -/
  parents : List (String × String) := []
  retryDeadLetters : Bool := true
  deadLetters : Bool := true
  timeout : Option UInt64 := none
  blocking : Blocking := {}
  /-- The handler of dead letters; they are logged when unset. -/
  deadLetterHandler : Option String := none
  /-- The consumer group, when not the common one. -/
  group : Option String := none
  deriving DecidableEq, Repr, Inhabited

namespace Configuration

/-! ## §1. Validity. -/

/-- The first contradiction among the options, if any. -/
def validate (c : Configuration) : Except OptionsFault Unit :=
  if !c.retryOn.isEmpty && !c.notRetryOn.isEmpty then .error .bothKindLists
  else if c.reuse = .single && c.backoff.isRandom then .error .reuseNeedsFixedDelays
  else if c.backoff.impliedAttempts?.isNone && c.attempts < 1 then .error .noAttempts
  else if c.blocking.attempts < 1 then .error .noBlockingAttempts
  else if c.autoCreate.partitions.any (· < 1) then .error .noPartitions
  else if c.retrySuffix.isEmpty then .error .emptyRetrySuffix
  else if c.deadLetters && c.deadLetterSuffix.isEmpty then .error .emptyDeadLetterSuffix
  -- The backoff comes last, so its faults hide behind those of the options.
  else match c.backoff.validate with
    | .error fault => .error (.backoff fault)
    | .ok () => .ok ()

/-! ## §2. What follows from a configuration. -/

/-- Whether the topic is covered. -/
def handles (c : Configuration) (topic : String) : Bool :=
  (c.topics.isEmpty || c.topics.contains topic) && !c.excludeTopics.contains topic

/-- The attempts; an explicit list of delays implies their number. -/
def maxAttempts (c : Configuration) : UInt32 := c.backoff.impliedAttempts?.getD c.attempts

/-- How the topics of a chain are named. -/
def naming (c : Configuration) : Naming where
  retrySuffix := c.retrySuffix
  deadLetterSuffix := c.deadLetterSuffix
  suffixing := c.suffixing
  reuse := c.reuse

/-- The relations between kinds: the common ones, then those declared. -/
def hierarchy (c : Configuration) : Hierarchy :=
  c.parents.foldl (fun h p => h.declare p.1 p.2) Hierarchy.default

/-- The classifier: the common one, amended by the two lists of kinds. -/
def classifier (c : Configuration) : Classifier :=
  let base : Classifier := { hierarchy := c.hierarchy }
  let amended := base.addNotRetryable c.notRetryOn
  -- No list is not an empty list: without one, kinds stay retryable by default.
  let amended := if c.retryOn.isEmpty then amended else amended.retryOnly c.retryOn
  { amended with traversingCauses := c.traversingCauses }

/-- The rules that all nodes of a chain share. -/
def policy (c : Configuration) : Policy where
  classifier := c.classifier
  blockingRetryOn := c.blocking.retryOn
  timeout := c.timeout

end Configuration

end Redelivery
