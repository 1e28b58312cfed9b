/-
  Redelivery.Proofs.Wiring.Nodes
  ──────────────────────────────
  **Which node each consumer of an endpoint serves.**

  An endpoint has one consumer for each topic of its chains.  Where several
  chains have a node on one topic, the consumer serves the node of the first
  of them, in the order of the source topics:

      node served on topic = chains.findSome? (nodeOn? topic)

  So a node has a listener of its own unless an earlier chain has a node on
  its topic.
-/
import Mathlib.Data.List.Nodup
import Redelivery.Proofs.Conservation.Endpoint
import Redelivery.Proofs.Topology.Progress

namespace Redelivery

/-! ## §1. The first node on a topic. -/

/-- The node of a chain on a topic. -/
def Chain.nodeOn? (c : Chain) (topic : String) : Option Destination :=
  c.destinations.find? fun d => d.hasTopic && d.name == topic

theorem Chain.of_nodeOn? {c : Chain} {topic : String} {d : Destination}
    (h : c.nodeOn? topic = some d) : d ∈ c.destinations ∧ d.hasTopic = true ∧ d.name = topic := by
  unfold nodeOn? at h
  have hboth := List.find?_some h
  rw [Bool.and_eq_true, beq_iff_eq] at hboth
  exact ⟨List.mem_of_find?_eq_some h, hboth⟩

theorem Chain.nodeOn?_eq_none {c : Chain} {topic : String} :
    c.nodeOn? topic = none ↔ ∀ d ∈ c.destinations, d.hasTopic = true → d.name ≠ topic := by
  unfold nodeOn?
  simp

/-- A regular chain has one node on a topic. -/
theorem Chain.Regular.nodeOn?_name {c : Chain} {main terminal d : Destination}
    {retries : List Destination} (h : c.Regular main retries terminal) (hd : d ∈ c.destinations)
    (htopic : d.hasTopic = true) : c.nodeOn? d.name = some d := by
  have hnames : (c.destinations.map Destination.name).Nodup := by
    rw [h.nodes]
    exact h.names
  cases hfound : c.nodeOn? d.name with
  | none => exact absurd rfl (Chain.nodeOn?_eq_none.1 hfound d hd htopic)
  | some d' =>
      obtain ⟨hd', _, hname⟩ := Chain.of_nodeOn? hfound
      rw [List.inj_on_of_nodup_map hnames hd' hd hname]

/-- Of the nodes of one name the first is kept. -/
theorem find?_distinctNames_go {topic : String} (l : List Destination) :
    ∀ seen : List String, topic ∉ seen →
      (Context.distinctNames.go seen l).find? (fun d => d.name == topic)
        = l.find? fun d => d.name == topic := by
  induction l with
  | nil => exact fun _ _ => rfl
  | cons first rest ih =>
      intro seen hnot
      unfold Context.distinctNames.go
      by_cases hseen : seen.contains first.name = true
      · have hne : first.name ≠ topic := by
          rintro rfl
          exact hnot (List.contains_iff_mem.1 hseen)
        rw [if_pos hseen, ih seen hnot, List.find?_cons, beq_false_of_ne hne]
      · rw [if_neg hseen, List.find?_cons, List.find?_cons]
        by_cases hname : first.name = topic
        · rw [beq_iff_eq.2 hname]
        · rw [beq_false_of_ne hname]
          apply ih
          rw [List.mem_cons, not_or]
          exact ⟨fun h => hname h.symm, hnot⟩

/-- **The node that stands for a topic is that of the first chain that has one.** -/
theorem Context.find?_topicNodes (c : Context) (topic : String) :
    c.topicNodes.find? (fun d => d.name == topic) = c.chains.findSome? (·.nodeOn? topic) := by
  unfold topicNodes distinctNames
  rw [find?_distinctNames_go _ [] List.not_mem_nil, List.filter_flatMap, List.find?_flatMap]
  congr 1
  funext chain
  rw [List.find?_filter]
  unfold Chain.nodeOn?
  congr 1
  funext d
  rw [Bool.decide_and, Bool.decide_eq_true, Bool.decide_eq_true]

/-- The chain in force has a node on the topic. -/
theorem Registry.reaches_iff_nodeOn? {registry : Registry} {source topic : String} {chain : Chain}
    (hchain : registry.chain? source = some chain) :
    registry.Reaches source topic ↔ chain.nodeOn? topic ≠ none := by
  rw [Ne, Chain.nodeOn?_eq_none]
  unfold Reaches
  constructor
  · rintro ⟨chain', hchain', d, hd, htopic, hname⟩ hnone
    rw [hchain] at hchain'
    cases hchain'
    exact hnone d hd htopic hname
  · intro hsome
    simp only [not_forall, Decidable.not_not] at hsome
    obtain ⟨d, hd, htopic, hname⟩ := hsome
    exact ⟨chain, hchain, d, hd, htopic, hname⟩

/-! ## §2. The consumers that are started. -/

/-- **The consumers of an endpoint are the new ones**, one for each listener, in order. -/
theorem Simulation.consumers_of_startAll {group : String} {ids : List Nat} {sim' : Simulation}
    (listeners : List (Listener × Handler)) : ∀ (sim : Simulation) (started : List Nat),
    sim.startAll group started listeners = (.ok ids, sim') →
    ∃ hired, sim'.consumers = sim.consumers ++ hired
      ∧ hired.map Consumer.listener = listeners.map Prod.fst
      ∧ ids = started ++ List.range' sim.consumers.length listeners.length
      ∧ sim'.registry = sim.registry := by
  -- induction on the listeners that are still to be started
  induction listeners with
  | nil =>
      intro sim started hok
      cases hok
      exact ⟨[], by simp, rfl, by simp, rfl⟩
  | cons p rest ih =>
      obtain ⟨l, handler⟩ := p
      intro sim started hok
      unfold startAll at hok
      cases hstart : sim.toSystem.start l handler group with
      | error e =>
          rw [hstart] at hok
          cases hok
      | ok system =>
          rw [hstart] at hok
          have hsystem := System.of_start hstart
          obtain ⟨hired, hconsumers, hlisteners, hids, hregistry⟩ :=
            ih (sim.setSystem system) (started ++ [sim.consumers.length]) hok
          have hfirst : (sim.setSystem system).consumers = sim.consumers ++ [⟨l, handler, group,
              .subscription sim.broker.nextSubscription, .polling sim.now, false, .kept⟩] := by
            show system.consumers = _
            rw [hsystem]
          refine ⟨⟨l, handler, group, .subscription sim.broker.nextSubscription,
            .polling sim.now, false, .kept⟩ :: hired, ?_, ?_, ?_, ?_⟩
          · rw [hconsumers, hfirst, List.append_assoc]
            rfl
          · rw [List.map_cons, hlisteners]
            rfl
          · rw [hids, hfirst, List.length_append, List.append_assoc]
            rfl
          · rw [hregistry]
            show system.registry = _
            rw [hsystem]

/-- Of the consumers of the endpoint one is on the topic, and it serves the node. -/
def Simulation.Serves (s : Simulation) (e : Endpoint) (topic : String) (node : Destination) :
    Prop :=
  ∃ i ∈ e.consumers, (∃ c, s.consumers[i]? = some c ∧ c.topic = topic ∧ c.listener.node = node)
    ∧ ∀ j ∈ e.consumers, ∀ c, s.consumers[j]? = some c → c.topic = topic → j = i

/-- **The consumers of an endpoint that was wired**: one for each node that stands for a topic of
the chains of the pass, which are in force. -/
theorem Simulation.exists_pass_of_configureWith {sim sim' : Simulation} {a : Application}
    {conf : Configuration} {topics : List String} {handler : String} {e : Endpoint}
    (wired : sim.configureWith a conf topics handler = (.ok e, sim')) :
    ∃ context first hired, conf.buildTopology topics a.draws = .ok context
      ∧ sim'.registry = sim.registry.register context
      ∧ hired.map (fun c : Consumer => c.listener.node) = context.topicNodes
      ∧ sim'.consumers = first ++ hired ∧ e.consumers = List.range' first.length hired.length := by
  obtain ⟨deadLetters, nodes, platform, ids, hdeclared, hstarted, rfl⟩ := of_configureWith wired
  obtain ⟨context, hbuild, rfl, _, hregistry⟩ := Platform.of_declareTopology hdeclared
  obtain ⟨hired, hconsumers, hlisteners, hids, hregistry'⟩ := consumers_of_startAll _ _ _ hstarted
  have hlength := congrArg List.length hlisteners
  rw [List.length_map, List.length_map] at hlength
  have hnodes := congrArg (List.map Listener.node) hlisteners
  rw [List.map_map, List.map_map, List.map_map] at hnodes
  refine ⟨context, platform.consumers, hired, hbuild, hregistry'.trans hregistry,
    hnodes.trans (List.map_id _), hconsumers, ?_⟩
  rw [hlength]
  exact hids.trans (List.nil_append _)

/-- The consumer of a topic is the one whose node stands for it. -/
theorem Simulation.serves_of_mem {s : Simulation} {e : Endpoint} {first hired : List Consumer}
    (hconsumers : s.consumers = first ++ hired)
    (hids : e.consumers = List.range' first.length hired.length)
    (hnames : (hired.map Consumer.topic).Nodup) {topic : String} {node : Destination}
    (hnode : node ∈ hired.map fun c : Consumer => c.listener.node) (hname : node.name = topic) :
    s.Serves e topic node := by
  obtain ⟨c, hc, rfl⟩ := List.mem_map.1 hnode
  obtain ⟨k, hk⟩ := List.getElem?_of_mem hc
  have hlt := (List.getElem?_eq_some_iff.1 hk).1
  have hget : ∀ j, s.consumers[first.length + j]? = hired[j]? := by
    intro j
    rw [hconsumers, List.getElem?_append_right (Nat.le_add_right _ _), Nat.add_sub_cancel_left]
  refine ⟨first.length + k, ?_, ⟨c, (hget k).trans hk, hname, rfl⟩, ?_⟩
  · rw [hids, List.mem_range'_1]
    omega
  · intro j hj c' hc' htopic
    rw [hids, List.mem_range'_1] at hj
    obtain ⟨m, rfl⟩ := Nat.exists_eq_add_of_le hj.1
    rw [hget] at hc'
    -- two consumers of one topic are one, since the topics are distinct
    have hm := (List.getElem?_eq_some_iff.1 hc').1
    have hsame : (hired.map Consumer.topic)[m]? = (hired.map Consumer.topic)[k]? := by
      rw [List.getElem?_map, List.getElem?_map, hc', hk]
      exact congrArg some (htopic.trans hname.symm)
    have hkm := (List.getElem?_inj (by rw [List.length_map]; exact hm) hnames).1 hsame
    rw [hkm]

/-! ## §3. First come, first served. -/

/-- `node` is on the topic, and belongs to the chain in force for the first of the source topics
that reaches the topic; so what fails on it is routed along that chain. -/
structure Registry.StandsFor (registry : Registry) (topics : List String) (node : Destination)
    (topic : String) : Prop where
  name : node.name = topic
  first : ∃ earlier later, topics = earlier ++ node.source :: later
    ∧ ∀ v ∈ earlier, ¬registry.Reaches v topic
  chain : ∃ chain, registry.chain? node.source = some chain ∧ node ∈ chain.destinations
    ∧ ∀ attempt f first now next,
      registry.resolve node.source node.name attempt f first now = .ok next →
        next ∈ chain.destinations

/-- **The node that stands for a topic belongs to the first chain in force that reaches it.** -/
theorem Context.Sound.standsFor {context : Context} (h : context.Sound) {registry : Registry}
    (hforce : ∀ chain ∈ context.chains, registry.chain? chain.source = some chain)
    {topic : String} {node : Destination}
    (hnode : context.chains.findSome? (·.nodeOn? topic) = some node) :
    registry.StandsFor (context.chains.map Chain.source) node topic := by
  obtain ⟨before, chain, after, hsplit, hon, hnone⟩ := List.findSome?_eq_some_iff.1 hnode
  obtain ⟨hmem, _, hname⟩ := Chain.of_nodeOn? hon
  have hchain : chain ∈ context.chains := by
    rw [hsplit]
    simp
  have hsource : node.source = chain.source := (h.chains chain hchain).sources node hmem
  have hfound : registry.chain? node.source = some chain := hsource ▸ hforce chain hchain
  refine ⟨hname, ⟨before.map Chain.source, after.map Chain.source, ?_, ?_⟩,
    chain, hfound, hmem, ?_⟩
  · rw [hsplit, List.map_append, List.map_cons, hsource]
  · intro v hv hreaches
    obtain ⟨other, hother, rfl⟩ := List.mem_map.1 hv
    have hin : other ∈ context.chains := by
      rw [hsplit]
      exact List.mem_append_left _ hother
    exact (Registry.reaches_iff_nodeOn? (hforce other hin)).1 hreaches (hnone other hother)
  · intro attempt f first now next hok
    obtain ⟨chain', hchain', hnext⟩ := Registry.mem_of_resolve hok
    rw [hfound] at hchain'
    cases hchain'
    exact hnext

/-- A chain's own node stands for its topic exactly if no chain before it reaches that topic. -/
theorem Context.Sound.findSome?_eq_iff {context : Context} (h : context.Sound)
    {registry : Registry}
    (hforce : ∀ chain ∈ context.chains, registry.chain? chain.source = some chain)
    {before after : List Chain} {chain : Chain} (hsplit : context.chains = before ++ chain :: after)
    {d : Destination} (hown : chain.nodeOn? d.name = some d) :
    context.chains.findSome? (·.nodeOn? d.name) = some d
      ↔ ∀ v ∈ before.map Chain.source, ¬registry.Reaches v d.name := by
  have hin : ∀ other ∈ before, other ∈ context.chains := by
    intro other hother
    rw [hsplit]
    exact List.mem_append_left _ hother
  constructor
  · intro hfound v hv hreaches
    obtain ⟨other, hother, rfl⟩ := List.mem_map.1 hv
    have hsome := (Registry.reaches_iff_nodeOn? (hforce other (hin other hother))).1 hreaches
    -- the first node would be one of an earlier chain, whose source topic is another one
    rw [hsplit, List.findSome?_append] at hfound
    cases hbefore : before.findSome? (·.nodeOn? d.name) with
    | none => exact hsome (List.findSome?_eq_none_iff.1 hbefore other hother)
    | some d' =>
        rw [hbefore] at hfound
        cases hfound
        obtain ⟨first, hfirst, hon⟩ := List.exists_of_findSome?_eq_some hbefore
        have hchain : chain ∈ context.chains := by
          rw [hsplit]
          simp
        have hfirstSource := (h.chains first (hin first hfirst)).sources d (Chain.of_nodeOn? hon).1
        have hownSource := (h.chains chain hchain).sources d (Chain.of_nodeOn? hown).1
        have hnodup := h.sources
        rw [hsplit, List.map_append, List.map_cons] at hnodup
        exact (List.nodup_append.1 hnodup).2.2 first.source (List.mem_map_of_mem hfirst) chain.source
          List.mem_cons_self (hfirstSource.symm.trans hownSource)
  · intro hnone
    have hbefore : before.findSome? (·.nodeOn? d.name) = none := by
      rw [List.findSome?_eq_none_iff]
      intro other hother
      by_contra hsome
      exact hnone other.source (List.mem_map_of_mem hother)
        ((Registry.reaches_iff_nodeOn? (hforce other (hin other hother))).2 hsome)
    rw [hsplit, List.findSome?_append, hbefore, List.findSome?_cons, hown]
    rfl

/-- **Each topic of an endpoint is served for the first chain that has it.**  Every topic of a chain
in force for one of the source topics has one consumer, and that serves the node of the first source
topic whose chain reaches the topic.  So it serves the chain's own node exactly if the chain of no
earlier source topic reaches that topic; and a record that arrives on a source topic is routed along
the chain of the first source topic that reaches it. -/
theorem topics_served_for_first_chain {sim sim' : Simulation} {a : Application}
    {conf : Configuration} {topics : List String} {handler : String} {e : Endpoint}
    (wired : sim.configureWith a conf topics handler = (.ok e, sim')) :
    e.consumers.Nodup ∧ topics.Nodup ∧ ∀ before t after, topics = before ++ t :: after →
      ∃ chain, sim'.registry.chain? t = some chain ∧ chain.source = t
        ∧ (∃ d ∈ chain.destinations, d.hasTopic = true ∧ d.name = t)
        ∧ ∀ d ∈ chain.destinations, d.hasTopic = true → ∃ node, sim'.Serves e d.name node
          ∧ sim'.registry.StandsFor topics node d.name
          ∧ (node = d ↔ ∀ v ∈ before, ¬sim'.registry.Reaches v d.name) := by
  obtain ⟨context, first, hired, hbuild, hregistry, hnodes, hconsumers, hids⟩ :=
    Simulation.exists_pass_of_configureWith wired
  obtain ⟨hsound, hsources⟩ := Configuration.of_buildTopology hbuild
  have hnodup : topics.Nodup := hsources ▸ hsound.sources
  have hforce : ∀ chain ∈ context.chains, sim'.registry.chain? chain.source = some chain := by
    intro chain hchain
    rw [hregistry]
    exact sim.registry.chain?_register context hsound.sources hchain
  have hnames : (hired.map Consumer.topic).Nodup := by
    have htopicNames := context.nodup_topicNodes
    rw [← hnodes, List.map_map] at htopicNames
    exact htopicNames
  refine ⟨by rw [hids]; exact List.nodup_range', hnodup, ?_⟩
  rintro before t after rfl
  -- the chains stand in the order of their source topics
  obtain ⟨chainsBefore, rest, hsplit, hbefore, hrest⟩ := List.map_eq_append_iff.1 hsources
  obtain ⟨chain, chainsAfter, rfl, rfl, hafter⟩ := List.map_eq_cons_iff.1 hrest
  have hchain : chain ∈ context.chains := by
    rw [hsplit]
    simp
  obtain ⟨main, retries, terminal, hregular⟩ :=
    Configuration.regular_of_buildTopology hbuild hchain
  refine ⟨chain, hforce chain hchain, rfl, (hsound.chains chain hchain).begins,
    fun d hd htopic => ?_⟩
  have hown := hregular.nodeOn?_name hd htopic
  cases hfound : context.chains.findSome? (·.nodeOn? d.name) with
  | none =>
      rw [List.findSome?_eq_none_iff.1 hfound chain hchain] at hown
      cases hown
  | some node =>
      have hmem : node ∈ context.topicNodes := by
        rw [← context.find?_topicNodes] at hfound
        exact List.mem_of_find?_eq_some hfound
      have hstands := hsound.standsFor hforce hfound
      have hiff := hsound.findSome?_eq_iff hforce hsplit hown
      rw [hsources] at hstands
      refine ⟨node, Simulation.serves_of_mem hconsumers hids hnames (hnodes ▸ hmem) hstands.name,
        hstands, ?_⟩
      rw [← hbefore, ← hiff, hfound, Option.some.injEq]

open Orders in
/-- Every topic of the second chain is served where the second topic is a retry topic of the first. -/
theorem topics_served_for_first_chain_of_both :
    ∃ chain, both.registry.chain? "orders-retry" = some chain
      ∧ ∀ d ∈ chain.destinations, d.hasTopic = true →
        ∃ node, both.Serves ⟨["orders", "orders-retry"], [0, 1, 2, 3, 4]⟩ d.name node := by
  have hwired : Simulation.configureWith {} application configuration ["orders", "orders-retry"]
      "main" = (.ok ⟨["orders", "orders-retry"], [0, 1, 2, 3, 4]⟩, both) :=
    Prod.ext (by decide +kernel) rfl
  obtain ⟨chain, hchain, _, _, hserved⟩ :=
    (topics_served_for_first_chain hwired).2.2 ["orders"] "orders-retry" [] rfl
  refine ⟨chain, hchain, fun d hd htopic => ?_⟩
  obtain ⟨node, hserves, _⟩ := hserved d hd htopic
  exact ⟨node, hserves⟩

open Orders in
/-- The main node of a chain can be without a listener: the only consumer of its topic serves the
retry node of the chain before it. -/
theorem main_node_can_be_unserved :
    (∃ e, Simulation.configureWith {} application configuration ["orders", "orders-retry"] "main"
      = (.ok e, both))
    ∧ ∃ chain ∈ both.registry.chain? "orders-retry", ∃ d ∈ chain.destinations,
        d.hasTopic = true ∧ d.name = "orders-retry"
        ∧ ∀ c ∈ both.consumers, c.topic = d.name →
          c.listener.node ≠ d ∧ c.listener.node.source = "orders" := by
  refine ⟨⟨⟨["orders", "orders-retry"], [0, 1, 2, 3, 4]⟩, Prod.ext (by decide +kernel) rfl⟩, ?_⟩
  decide +kernel

end Redelivery
