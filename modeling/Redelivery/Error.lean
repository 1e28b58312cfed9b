/-
  Redelivery.Error
  ────────────────
  **What can go wrong, by cause.**

  Five groups: a configuration that does not hold together, a routing
  decision that finds the topology inconsistent, a failure that a later
  delivery may mend, a failure with nowhere left to go, and an error of the
  message bus.  Each group lists its causes; the wording of a cause is said
  once, in the `message` function of its group.  Every error but the
  retryable one stops the consumer that meets it.
-/
import Redelivery.Failure
import Redelivery.Decimal.Shortest
import Redelivery.Text.Printable

namespace Redelivery

/-! ## §1. The message bus. -/

/-- An error of the message bus, by the operation that failed. -/
inductive BusError where
  | connection (detail : String)
  | publish (detail : String)
  | subscribe (detail : String)
  | commit (detail : String)
  | admin (detail : String)
  deriving DecidableEq, Repr, Inhabited

/-- The wording of a bus error. -/
def BusError.message : BusError → String
  | .connection detail => "Connection failed: " ++ detail
  | .publish detail => "Publish failed: " ++ detail
  | .subscribe detail => "Subscribe failed: " ++ detail
  | .commit detail => "Commit failed: " ++ detail
  | .admin detail => "Topic administration failed: " ++ detail

/-! ## §2. Configuration. -/

/-- What is wrong with a backoff. -/
inductive BackoffFault where
  | minAboveMax (min max : UInt64)
  | multiplierNotAboveOne (multiplier : Float)
  | initialAboveMax (initial max : UInt64)
  | delayTooLong (delay : UInt64)
  | noAttempts
  deriving DecidableEq, Repr

/-- The longest delay that still fits a due time in epoch milliseconds. -/
def longestDelay : UInt64 := 9223372036854775807

/-- The wording of a backoff fault. -/
def BackoffFault.message : BackoffFault → String
  | .minAboveMax min max =>
      "uniform random backoff has min " ++ toString min ++ "ms above max " ++ toString max ++ "ms"
  | .multiplierNotAboveOne multiplier =>
      "exponential backoff multiplier must be finite and greater than 1, got "
        ++ Decimal.positional multiplier
  | .initialAboveMax initial max =>
      "exponential backoff has initial " ++ toString initial ++ "ms above max " ++ toString max
        ++ "ms"
  | .delayTooLong delay =>
      "backoff delay " ++ toString delay ++ "ms exceeds the maximum of " ++ toString longestDelay
        ++ "ms"
  | .noAttempts => "max attempts must be at least 1"

/-- What is wrong with the levels of a chain. -/
inductive LevelsFault where
  | emptyTopic
  | tooFewLevels
  | firstNotMain
  | lastNotTerminal
  | onlyRetryBetween
  | noAttempts
  | delaysDecrease
  | delayTooLong
  deriving DecidableEq, Repr

/-- The wording of a fault in the levels. -/
def LevelsFault.message : LevelsFault → String
  | .emptyTopic => "empty topic name"
  | .tooFewLevels => "a chain needs a main and a terminal node"
  | .firstNotMain => "first node must be MAIN"
  | .lastNotTerminal => "last node must be DLT or NO_OPS"
  | .onlyRetryBetween => "only RETRY nodes may sit between MAIN and the terminal node"
  | .noAttempts => "every level needs at least one attempt"
  | .delaysDecrease => "retry delays must not decrease"
  | .delayTooLong => "delay does not fit an epoch-millis due time"

/-- What is wrong with the options of a configuration. -/
inductive OptionsFault where
  | bothKindLists
  | reuseNeedsFixedDelays
  | noAttempts
  | noBlockingAttempts
  | noPartitions
  | emptyRetrySuffix
  | emptyDeadLetterSuffix
  | backoff (fault : BackoffFault)
  deriving DecidableEq, Repr

/-- The wording of a fault in the options. -/
def OptionsFault.message : OptionsFault → String
  | .bothKindLists => "retry_on and not_retry_on cannot both be set"
  | .reuseNeedsFixedDelays => "SINGLE_TOPIC reuse needs a deterministic backoff"
  | .noAttempts => "attempts must be at least 1"
  | .noBlockingAttempts => "blocking attempts must be at least 1"
  | .noPartitions => "auto-created topics need at least one partition"
  | .emptyRetrySuffix => "retry topic suffix is empty"
  | .emptyDeadLetterSuffix => "DLT suffix is empty"
  | .backoff fault => fault.message

/-- Why a configuration, or a use of it, is refused. -/
inductive ConfigurationFault where
  /-- The levels of a chain are malformed. -/
  | invalidChain (source : String) (fault : LevelsFault)
  /-- Two nodes of a chain would have one name. -/
  | nameUsedTwice (name source : String)
  /-- A source topic is processed twice in one context. -/
  | configuredTwice (topic : String)
  /-- No chain is registered for the source topic. -/
  | unknownChain (topic : String)
  | backoff (fault : BackoffFault)
  | options (fault : OptionsFault)
  /-- A topic is listed explicitly by two configurations. -/
  | topicInTwo (topic : String)
  /-- No configuration handles all the topics. -/
  | unhandled (topics : List String)
  | noTopics
  | unknownHandler (name : String)
  /-- A fault in one entry of the settings. -/
  | entry (index : Nat) (fault : ConfigurationFault)
  /-- The settings could not be read. -/
  | unreadable
  /-- A fault reported by its text. -/
  | stated (text : String)
  deriving DecidableEq, Repr

/-- The wording of a configuration fault, after the name of its group. -/
def ConfigurationFault.message : ConfigurationFault → String
  | .invalidChain source fault => "invalid chain for '" ++ source ++ "': " ++ fault.message
  | .nameUsedTwice name source =>
      "destination name '" ++ name ++ "' is used twice in the chain of '" ++ source ++ "'"
  | .configuredTwice topic => "topic '" ++ topic ++ "' is configured twice"
  | .unknownChain topic => "no destination chain registered for topic '" ++ topic ++ "'"
  | .backoff fault => fault.message
  | .options fault => fault.message
  | .topicInTwo topic => "topic '" ++ topic ++ "' appears in two retry topic configurations"
  | .unhandled topics => "no retry topic configuration handles " ++ Text.listed topics
  | .noTopics => "no topics to configure"
  | .unknownHandler name => "no handler registered under '" ++ name ++ "'"
  | .entry index fault =>
      "retry_topics[" ++ toString index ++ "]: Configuration error: " ++ fault.message
  | .unreadable => "failed to load configuration"
  | .stated text => text

/-! ## §3. Routing and processing. -/

/-- Why no next node can be named. -/
inductive RoutingFault where
  /-- The topic is no node of the chain of the source topic. -/
  | notInChain (topic source : String)
  /-- A record cannot fail on a node that handles nothing. -/
  | failedOnNoOps (source : String)
  /-- The chain ends after the topic. -/
  | chainEnds (topic source : String)
  /-- A fault reported by its text. -/
  | stated (text : String)
  deriving DecidableEq, Repr

/-- The wording of a routing fault. -/
def RoutingFault.message : RoutingFault → String
  | .notInChain topic source => "topic '" ++ topic ++ "' is not part of the chain of '" ++ source
      ++ "'"
  | .failedOnNoOps source => "records cannot fail on the no-ops node of '" ++ source ++ "'"
  | .chainEnds topic source => "no destination after '" ++ topic ++ "' in the chain of '" ++ source
      ++ "'"
  | .stated text => text

/-- Why a record has nowhere left to go. -/
inductive FatalReason where
  /-- The handler of the dead letters failed. -/
  | deadLetterFailed (failure : Failure)
  /-- Every try to publish the record to its next topic failed. -/
  | notRepublished (next : String) (error : BusError)
  /-- The task of the consumer broke down. -/
  | taskFailed
  /-- A reason reported by its text. -/
  | stated (text : String)
  deriving DecidableEq, Repr

/-- The wording of a fatal reason. -/
def FatalReason.message : FatalReason → String
  | .deadLetterFailed failure => "DLT processing failed: " ++ failure.describe
  | .notRepublished next error => "could not republish to '" ++ next ++ "': " ++ error.message
  | .taskFailed => "listener task failed"
  | .stated text => text

/-! ## §4. All errors. -/

/-- An error of the library. -/
inductive Error where
  | configuration (fault : ConfigurationFault)
  | routing (fault : RoutingFault)
  | retryable (topic : String) (failure : Failure)
  | fatal (topic : String) (reason : FatalReason)
  | bus (error : BusError)
  deriving DecidableEq, Repr

namespace Error

/-- The wording of an error. -/
def message : Error → String
  | .configuration fault => "Configuration error: " ++ fault.message
  | .routing fault => "Routing decision failed: " ++ fault.message
  | .retryable topic failure => "Retryable failure on '" ++ topic ++ "': " ++ failure.describe
  | .fatal topic reason => "Fatal failure on '" ++ topic ++ "': " ++ reason.message
  | .bus error => "Bus error: " ++ error.message

/-- Whether a consumer that meets the error stops. -/
def stopsConsumer : Error → Bool
  | .retryable _ _ => false
  | _ => true

/-- The error underneath, if there is one. -/
def source? : Error → Option BusError
  | .bus error => some error
  | _ => none

end Error

/-! ## §5. Calls without an answer. -/

/-- Why a call gives no answer. -/
inductive Interruption (ε : Type) where
  /-- The call reports an error. -/
  | reported (error : ε)
  /-- A sum does not fit its type: the call breaks down, and reports nothing. -/
  | overflow
  deriving DecidableEq, Repr

/-- The same, with the error that is reported seen from outside. -/
def Interruption.map {ε ε' : Type} (f : ε → ε') : Interruption ε → Interruption ε'
  | .reported error => .reported (f error)
  | .overflow => .overflow

/-- Answers that may be errors can be compared. -/
instance decidableEqAnswer {ε α : Type} [DecidableEq ε] [DecidableEq α] :
    DecidableEq (Except ε α)
  | .ok a, .ok b =>
      if h : a = b then .isTrue (h ▸ rfl) else .isFalse fun e => h (Except.ok.inj e)
  | .error a, .error b =>
      if h : a = b then .isTrue (h ▸ rfl) else .isFalse fun e => h (Except.error.inj e)
  | .ok _, .error _ => .isFalse nofun
  | .error _, .ok _ => .isFalse nofun

end Redelivery
