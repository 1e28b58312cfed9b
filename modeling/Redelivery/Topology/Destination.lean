/-
  Redelivery.Topology.Destination
  ───────────────────────────────
  **The nodes of a redelivery chain.**

  A chain is one main node, retry nodes with growing delays, and a terminal
  node: a dead-letter topic, or a node without a topic where records are
  dropped.  A level says what a node needs before it has a name; a
  destination is a named node.
-/

namespace Redelivery

/-- The part that a node plays in its chain. -/
inductive Role where
  | main
  | retry
  | deadLetter
  /-- Terminal node of a chain without dead letters; records that reach it are dropped. -/
  | noOps
  deriving DecidableEq, Repr, Inhabited

/-- Whether a chain ends with such a node. -/
def Role.isTerminal : Role → Bool
  | .deadLetter | .noOps => true
  | .main | .retry => false

/-- The role as it is shown. -/
def Role.label : Role → String
  | .main => "MAIN"
  | .retry => "RETRY"
  | .deadLetter => "DLT"
  | .noOps => "NO_OPS"

/-- What a node of a chain needs, before it is named. -/
structure Level where
  role : Role
  /-- Milliseconds before a record is handled at this node. -/
  delay : UInt64 := 0
  maxAttempts : UInt32 := 1
  /-- Whether a failed dead letter is delivered again. -/
  retriesDeadLetters : Bool := true
  deriving DecidableEq, Repr, Inhabited

/-- A main level, a retry level for each delay, and a terminal level without delay. -/
def Level.forChain (delays : List UInt64) (attempts : UInt32)
    (deadLetters retriesDeadLetters : Bool) : List Level :=
  let level (role : Role) (delay : UInt64) : Level := ⟨role, delay, attempts, retriesDeadLetters⟩
  level .main 0 :: delays.map (level .retry)
    ++ [⟨if deadLetters then .deadLetter else .noOps, 0, 1, retriesDeadLetters⟩]

/-- A named node of the chain of a source topic. -/
structure Destination where
  source : String
  name : String
  role : Role
  delay : UInt64
  maxAttempts : UInt32
  retriesDeadLetters : Bool
  /-- Whether the node stands for several levels and counts attempts across deliveries. -/
  reusable : Bool := false
  deriving DecidableEq, Repr, Inhabited

namespace Destination

/-- The node of a level under a name. -/
def ofLevel (source name : String) (level : Level) : Destination where
  source := source
  name := name
  role := level.role
  delay := level.delay
  maxAttempts := level.maxAttempts
  retriesDeadLetters := level.retriesDeadLetters

def isMain (d : Destination) : Bool := d.role == .main
def isDeadLetter (d : Destination) : Bool := d.role == .deadLetter
def isNoOps (d : Destination) : Bool := d.role == .noOps
def isTerminal (d : Destination) : Bool := d.role.isTerminal

/-- Whether records for this node lie on a topic. -/
def hasTopic (d : Destination) : Bool := !d.isNoOps

/-- Whether attempts at this node are counted across deliveries. -/
def countsDeliveries (d : Destination) : Bool := d.reusable || d.isDeadLetter

/-- The node on one line. -/
def describe (d : Destination) : String :=
  d.name ++ " [" ++ d.role.label ++ "] delay=" ++ toString d.delay ++ "ms attempts="
    ++ toString d.maxAttempts ++ if d.reusable then " reused" else ""

end Destination

end Redelivery
