/-
  Redelivery.Wiring.Report
  ────────────────────────
  **The chains of an application on paper.**

  For every configuration that lists topics, the chains that it stands for:
  the source topic on a line of its own, then one indented line per node.
  Nothing is created and no chain is put in force.
-/
import Redelivery.Wiring.Application

namespace Redelivery

/-- The lines of a chain. -/
def Chain.lines (c : Chain) : List String :=
  c.source :: c.destinations.map fun d => "  " ++ d.describe

/-- Lines, and what ended them, if something did. -/
structure Report where
  lines : List String := []
  interruption? : Option (Interruption ConfigurationFault) := none
  deriving DecidableEq, Repr, Inhabited

namespace Application

/-- The chains of configurations, up to the first that cannot be built. -/
def reportOn (a : Application) : List Configuration → Report
  | [] => {}
  | c :: rest =>
      if c.topics.isEmpty then a.reportOn rest
      else
        match c.buildTopology c.topics a.draws with
        | .error interruption => { interruption? := some interruption }
        | .ok context =>
            -- Each configuration draws from where the one before left off.
            let others := (a.afterDraws c).reportOn rest
            { others with lines := context.chains.flatMap Chain.lines ++ others.lines }

/-- The chains of every configuration that lists topics. -/
def report (a : Application) : Report := a.reportOn a.configurations

end Application

end Redelivery
