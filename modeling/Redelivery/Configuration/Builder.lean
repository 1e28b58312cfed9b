/-
  Redelivery.Configuration.Builder
  ────────────────────────────────
  **Assembling a configuration step by step.**

  Every step amends the configuration reached so far; `create` gives it out
  if it holds together.
-/
import Redelivery.Configuration.Basic

namespace Redelivery.Configuration

/-! ## §1. Topics. -/

def includeTopic (c : Configuration) (topic : String) : Configuration :=
  { c with topics := c.topics ++ [topic] }

def includeTopics (c : Configuration) (topics : List String) : Configuration :=
  { c with topics := c.topics ++ topics }

def excludeTopic (c : Configuration) (topic : String) : Configuration :=
  { c with excludeTopics := c.excludeTopics ++ [topic] }

/-! ## §2. Attempts and delays. -/

def withMaxAttempts (c : Configuration) (attempts : UInt32) : Configuration :=
  { c with attempts := attempts }

def withBackoff (c : Configuration) (backoff : Backoff) : Configuration :=
  { c with backoff := backoff }

/-- Set the attempts at each node and the pause between them. -/
def withBlockingRetries (c : Configuration) (attempts : UInt32) (interval : UInt64) :
    Configuration :=
  { c with blocking := { c.blocking with attempts := attempts, interval := interval } }

def withBlockingRetryOn (c : Configuration) (kinds : List String) : Configuration :=
  { c with blocking := { c.blocking with retryOn := c.blocking.retryOn ++ kinds } }

def withTimeout (c : Configuration) (timeout : UInt64) : Configuration :=
  { c with timeout := some timeout }

/-! ## §3. Names and topics to create. -/

def withRetrySuffix (c : Configuration) (suffix : String) : Configuration :=
  { c with retrySuffix := suffix }

def withDeadLetterSuffix (c : Configuration) (suffix : String) : Configuration :=
  { c with deadLetterSuffix := suffix }

def withSuffixing (c : Configuration) (suffixing : Suffixing) : Configuration :=
  { c with suffixing := suffixing }

def withReuse (c : Configuration) (reuse : TopicReuse) : Configuration :=
  { c with reuse := reuse }

/-- Create missing topics, with these numbers in place of those of the main topic. -/
def autoCreating (c : Configuration) (partitions : Option Int32) (replication : Option Int16) :
    Configuration :=
  { c with autoCreate := ⟨true, partitions, replication⟩ }

/-- Create no topics. -/
def notAutoCreating (c : Configuration) : Configuration :=
  { c with autoCreate := { c.autoCreate with enabled := false } }

/-! ## §4. Kinds of failure. -/

def withRetryOn (c : Configuration) (kinds : List String) : Configuration :=
  { c with retryOn := c.retryOn ++ kinds }

def withNotRetryOn (c : Configuration) (kinds : List String) : Configuration :=
  { c with notRetryOn := c.notRetryOn ++ kinds }

def withTraversingCauses (c : Configuration) (traversing : Bool) : Configuration :=
  { c with traversingCauses := traversing }

/-- Declare the parent of a kind, in place of an earlier declaration. -/
def withSubtype (c : Configuration) (child parent : String) : Configuration :=
  { c with parents := c.parents.filter (·.1 != child) ++ [(child, parent)] }

/-! ## §5. Dead letters and the consumer group. -/

/-- A failed dead letter is not delivered again. -/
def notRetryingDeadLetters (c : Configuration) : Configuration :=
  { c with retryDeadLetters := false }

/-- The chain ends without dead letters. -/
def withoutDeadLetters (c : Configuration) : Configuration :=
  { c with deadLetters := false }

def withDeadLetterHandler (c : Configuration) (name : String) : Configuration :=
  { c with deadLetterHandler := some name }

def withGroup (c : Configuration) (group : String) : Configuration :=
  { c with group := some group }

/-! ## §6. The end. -/

/-- The configuration, if it holds together. -/
def create (c : Configuration) : Except OptionsFault Configuration :=
  match c.validate with
  | .ok () => .ok c
  | .error fault => .error fault

end Redelivery.Configuration
