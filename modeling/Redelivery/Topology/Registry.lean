/-
  Redelivery.Topology.Registry
  ────────────────────────────
  **Chains under construction, and the chains in force.**

  A context collects the chains of one configuration pass, at most one per
  source topic.  Registering a context puts its chains in force, in place of
  earlier chains of the same source topics; all others stay as they are.
-/
import Redelivery.Topology.Chain

namespace Redelivery

/-- Chains collected during one configuration pass. -/
structure Context where
  chains : List Chain := []
  deriving DecidableEq, Repr, Inhabited

namespace Context

/-- Add a chain, unless its source topic has one already. -/
def add (c : Context) (chain : Chain) : Except ConfigurationFault Context :=
  if c.chains.any fun other => other.source == chain.source then
    .error (.configuredTwice chain.source)
  else .ok ⟨c.chains ++ [chain]⟩

/-- Build the chain of a source topic and add it. -/
def process (c : Context) (source : String) (levels : List Level) (naming : Naming)
    (policy : Policy) : Except (Interruption ConfigurationFault) Context := do
  let destinations ← buildNodes source levels naming
  (c.add ⟨source, destinations, policy⟩).mapError .reported

/-- Keep the first of the nodes of each name. -/
def distinctNames (l : List Destination) : List Destination := go [] l
where
  go (seen : List String) : List Destination → List Destination
    | [] => []
    | d :: rest =>
        if seen.contains d.name then go seen rest else d :: go (d.name :: seen) rest

/-- The distinct nodes that have a topic, in chain order; of one name the first. -/
def topicNodes (c : Context) : List Destination :=
  distinctNames ((c.chains.flatMap Chain.destinations).filter Destination.hasTopic)

end Context

/-- The chains in force, one per source topic. -/
structure Registry where
  chains : List Chain := []
  deriving DecidableEq, Repr, Inhabited

namespace Registry

/-- The chain of a source topic. -/
def chain? (r : Registry) (source : String) : Option Chain :=
  r.chains.find? fun c => c.source == source

/-- Put one chain in force. -/
def put (r : Registry) (chain : Chain) : Registry :=
  -- Whole chains are exchanged: nodes of the old one that the new one lacks are gone.
  ⟨r.chains.filter (fun c => c.source != chain.source) ++ [chain]⟩

/-- Put every chain of the context in force. -/
def register (r : Registry) (c : Context) : Registry := c.chains.foldl put r

end Registry

end Redelivery
