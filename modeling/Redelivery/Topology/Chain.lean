/-
  Redelivery.Topology.Chain
  ─────────────────────────
  **Building the chain of a source topic.**

  The levels of a chain are checked, the retry levels are gathered into runs
  (under topic reuse a run is a maximal stretch of equal delays, otherwise
  every level is a run of its own), and every run becomes a node.  A node
  that stands for several levels has the attempts of all of them together;
  where 32 bits do not hold them, the build breaks down without an answer.
  No two nodes of a chain may have one name.
-/
import Redelivery.Error
import Redelivery.Classification.Classifier
import Redelivery.Topology.Destination
import Redelivery.Topology.Naming

namespace Redelivery

/-! ## §1. Checking levels. -/

/-- Whether some element is greater than its successor. -/
def decreases : List UInt64 → Bool
  | a :: b :: rest => decide (b < a) || decreases (b :: rest)
  | _ => false

/-- The levels between the first and the last. -/
def innerLevels (levels : List Level) : List Level := (levels.drop 1).dropLast

/-- The first fault of the levels of a chain, if any. -/
def checkLevels (source : String) (levels : List Level) : Except LevelsFault Unit :=
  if source.isEmpty then .error .emptyTopic
  else if levels.length < 2 then .error .tooFewLevels
  else if (levels.head?.map Level.role) ≠ some .main then .error .firstNotMain
  else if (levels.getLast?.any fun l => l.role.isTerminal) = false then .error .lastNotTerminal
  else if (innerLevels levels).any (fun l => l.role ≠ .retry) then .error .onlyRetryBetween
  else if levels.any (fun l => l.maxAttempts < 1) then .error .noAttempts
  else if decreases ((innerLevels levels).map Level.delay) then .error .delaysDecrease
  else if levels.any (fun l => longestDelay < l.delay) then .error .delayTooLong
  else .ok ()

/-! ## §2. Runs of retry levels. -/

/-- Neighbouring retry levels that share a node. -/
structure RetryRun where
  /-- The first level of the run. -/
  level : Level
  count : Nat
  /-- The attempts of all levels of the run. -/
  attempts : Nat
  deriving DecidableEq, Repr, Inhabited

/-- A run of one level. -/
def RetryRun.ofLevel (level : Level) : RetryRun := ⟨level, 1, level.maxAttempts.toNat⟩

/-- Gather retry levels into runs. -/
def retryRuns (reuse : TopicReuse) : List Level → List RetryRun
  | [] => []
  | level :: rest =>
      -- From the back: a level joins the run behind it or opens one of its own.
      match retryRuns reuse rest with
      | [] => [.ofLevel level]
      | run :: runs =>
          if reuse = .single ∧ level.delay = run.level.delay then
            ⟨level, run.count + 1, level.maxAttempts.toNat + run.attempts⟩ :: runs
          else .ofLevel level :: run :: runs

/-- Whether adding up the attempts of the run overflows.  Attempts are added one level after the
other, in 32 bits; they are never negative, so one of the sums is too large if the last one is. -/
def RetryRun.overflows (run : RetryRun) : Bool := decide (UInt32.size ≤ run.attempts)

/-- The node of a run. -/
def RetryRun.toDestination (run : RetryRun) (source name : String) : Destination :=
  let d := Destination.ofLevel source name run.level
  -- A lone level stays a plain node, whatever the naming asks for.
  if run.count > 1 then { d with reusable := true, maxAttempts := .ofNat run.attempts } else d

/-! ## §3. The chain. -/

/-- The first text that occurred before in the list. -/
def firstRepeated? (l : List String) : Option String := go [] l
where
  go (seen : List String) : List String → Option String
    | [] => none
    | s :: rest => if seen.contains s then some s else go (s :: seen) rest

/-- The nodes of a chain, without checks: main, retries, terminal. -/
def nodes (source : String) (main : Level) (runs : List RetryRun) (terminal : Level)
    (naming : Naming) : List Destination :=
  let suffixes := naming.retrySuffixes (runs.map fun r => r.level.delay)
  let retries := (runs.zip suffixes).map fun (run, suffix) =>
    run.toDestination source (source ++ suffix)
  let terminalSuffix := if terminal.role = .deadLetter then naming.deadLetterSuffix
    else Naming.noOpsSuffix
  .ofLevel source source main :: retries ++ [.ofLevel source (source ++ terminalSuffix) terminal]

/-- The named nodes of the chain of a source topic, main first. -/
def buildNodes (source : String) (levels : List Level) (naming : Naming) :
    Except (Interruption ConfigurationFault) (List Destination) :=
  match checkLevels source levels with
  | .error fault => .error (.reported (.invalidChain source fault))
  | .ok () =>
      match levels.head?, levels.getLast? with
      | some main, some terminal =>
          let runs := retryRuns naming.reuse (innerLevels levels)
          -- The check bounds the attempts of a level from below only.
          if runs.any RetryRun.overflows then .error .overflow
          else
            let built := nodes source main runs terminal naming
            -- The suffixes are free text, so two nodes can come out with one name.
            match firstRepeated? (built.map Destination.name) with
            | some name => .error (.reported (.nameUsedTwice name source))
            | none => .ok built
      | _, _ => .error (.reported (.invalidChain source .tooFewLevels))

/-- The rules that all nodes of a chain share. -/
structure Policy where
  classifier : Classifier := {}
  /-- Kinds retried without leaving the node; none listed means every kind that is not fatal. -/
  blockingRetryOn : List String := []
  /-- Milliseconds after the first failure at which retrying ends. -/
  timeout : Option UInt64 := none
  deriving DecidableEq, Repr, Inhabited

/-- Whether the failure may be retried without leaving its node. -/
def Policy.blocksOn (p : Policy) (f : Failure) : Bool :=
  p.blockingRetryOn.isEmpty
    || p.blockingRetryOn.any fun kind => p.classifier.hierarchy.isA f.kind kind

/-- The ordered nodes of one source topic. -/
structure Chain where
  source : String
  destinations : List Destination
  policy : Policy
  deriving DecidableEq, Repr, Inhabited

namespace Chain

/-- The place of the node of that name. -/
def position? (c : Chain) (name : String) : Option Nat :=
  c.destinations.findIdx? fun d => d.name == name

/-- The node of that name. -/
def get? (c : Chain) (name : String) : Option Destination :=
  (c.position? name).bind fun i => c.destinations[i]?

/-- The last node. -/
def terminal? (c : Chain) : Option Destination := c.destinations.getLast?

end Chain

end Redelivery
