/-
  Redelivery.Wiring.Provisioning
  ──────────────────────────────
  **Creating the topics of chains, and putting the chains in force.**

  The layouts of the main topics are asked for first.  Every other topic of
  a chain takes the layout of its main topic, unless the configuration says
  otherwise; where nothing is known, one partition and the replication that
  the broker prefers.  Chains are put in force once their topics exist.
-/
import Redelivery.Bus.Admin
import Redelivery.System.Basic
import Redelivery.Wiring.Application

namespace Redelivery

/-- What is known about the layout of main topics, by name. -/
abbrev KnownLayouts := List (String × Layout)

/-- The layout that the topic of a node is to have. -/
def AutoCreate.layoutFor (ac : AutoCreate) (known : KnownLayouts) (d : Destination) : Layout :=
  let inherited := known.lookup d.source
  { partitions := (ac.partitions.or (inherited.map Layout.partitions)).getD 1
    replication := (ac.replication.or (inherited.map Layout.replication)).getD (-1) }

/-- The topics to be created for some nodes. -/
def AutoCreate.requests (ac : AutoCreate) (known : KnownLayouts) (nodes : List Destination) :
    List TopicRequest :=
  nodes.map fun d => ⟨d.name, ac.layoutFor known d⟩

/-- Ask for the layouts of topics, up to the first that is refused. -/
def Admin.layouts (a : Admin) (b : Broker) :
    List String → Except BusError KnownLayouts × Admin
  | [] => (.ok [], a)
  | name :: rest =>
      match a.describeRetrying b name Admin.maxRetries with
      | (.error e, a) => (.error e, a)
      | (.ok layout, a) =>
          match a.layouts b rest with
          | (.error e, a) => (.error e, a)
          | (.ok known, a) => (.ok ((layout.toList.map (name, ·)) ++ known), a)

/-- A system with the administration of its topics. -/
structure Platform extends System where
  admin : Admin := {}
  deriving DecidableEq, Repr, Inhabited

namespace Platform

/-- Create the missing topics among those of some nodes. -/
def provision (p : Platform) (ac : AutoCreate) (nodes : List Destination) :
    Except BusError Unit × Platform :=
  -- All layouts are known before the first topic is created.
  let mains := (nodes.filter Destination.isMain).map Destination.source
  match p.admin.layouts p.broker mains with
  | (.error e, admin) => (.error e, { p with admin := admin })
  | (.ok known, admin) =>
      let (answer, admin, broker) :=
        admin.createRetrying p.broker (ac.requests known nodes) Admin.maxRetries
      (answer, { p with admin := admin, broker := broker })

/-- Build the chains of some topics, create their topics if asked to, and put them in force.
Gives the distinct nodes that have a topic. -/
def declareTopology (p : Platform) (c : Configuration) (topics : List String) (draws : Draws) :
    Except (Interruption Error) (List Destination) × Platform :=
  match c.buildTopology topics draws with
  | .error interruption => (.error (interruption.map .configuration), p)
  | .ok context =>
      let nodes := context.topicNodes
      let (answer, p) :=
        if c.autoCreate.enabled then p.provision c.autoCreate nodes else (.ok (), p)
      -- Without its topics no chain comes into force.
      match answer with
      | .error e => (.error (.reported (.bus e)), p)
      | .ok () => (.ok nodes, { p with registry := p.registry.register context })

end Platform

end Redelivery
