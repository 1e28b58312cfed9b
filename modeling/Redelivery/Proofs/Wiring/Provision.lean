/-
  Redelivery.Proofs.Wiring.Provision
  ──────────────────────────────────
  **Declaring chains is complete, minimal and idempotent.**

  After a declaration there is a topic for each node that has one, no other
  topic is new, and old topics are as they were.  Declaring the chains again
  asks for the very same topics, since a main topic that was made hands on
  the layout that it was made with,

      inheriting (some (inheriting none))  =  inheriting none

  finds all of them there, and puts the same chains in force again.
-/
import Redelivery.Proofs.System.Provided
import Redelivery.Proofs.Wiring.Layouts

namespace Redelivery

/-! ## §1. What does not change the second time. -/

/-- Delays that are not drawn do not depend on the draws. -/
theorem Configuration.buildTopology_of_not_random {conf : Configuration}
    (h : conf.backoff.isRandom = false) (topics : List String) (draws draws' : Draws) :
    conf.buildTopology topics draws = conf.buildTopology topics draws' := by
  have hdelays : ∀ levels, conf.backoff.delays levels draws = conf.backoff.delays levels draws' := by
    intro levels
    cases hbackoff : conf.backoff with
    | uniformRandom low high =>
        rw [hbackoff] at h
        cases h
    | exponentialRandom initial multiplier max =>
        rw [hbackoff] at h
        cases h
    | fixed delay => rfl
    | exponential initial multiplier max => rfl
    | explicit delays => rfl
  unfold buildTopology Backoff.generate
  rw [hdelays]

/-- **What is in force after a context is registered**: other chains, then those of the context. -/
theorem Registry.chains_register {context : Context}
    (h : (context.chains.map Chain.source).Nodup) (r : Registry) :
    (r.register context).chains
      = r.chains.filter (fun c => decide (c.source ∉ context.chains.map Chain.source))
        ++ context.chains := by
  unfold register
  -- induction on the chains, each of which first takes out the old one of its source topic
  generalize context.chains = chains at h
  induction chains generalizing r with
  | nil => simp
  | cons first rest ih =>
      rw [List.map_cons, List.nodup_cons] at h
      have hfirst : decide (first.source ∉ rest.map Chain.source) = true := decide_eq_true h.1
      rw [List.foldl_cons, ih _ h.2]
      show ((r.chains.filter fun c => c.source != first.source) ++ [first]).filter _ ++ rest = _
      rw [List.filter_append, List.filter_filter, List.filter_cons, if_pos hfirst, List.filter_nil,
        List.append_assoc]
      congr 1
      apply List.filter_congr
      intro c _
      rw [Bool.eq_iff_iff]
      simp [and_comm]

/-- **Registering a context again changes nothing.** -/
theorem Registry.register_register {context : Context}
    (h : (context.chains.map Chain.source).Nodup) (r : Registry) :
    (r.register context).register context = r.register context := by
  have hnone : context.chains.filter
      (fun c => decide (c.source ∉ context.chains.map Chain.source)) = [] := by
    rw [List.filter_eq_nil_iff]
    intro c hc
    simpa using ⟨c, hc, rfl⟩
  have hchains : ((r.register context).register context).chains = (r.register context).chains := by
    rw [chains_register h, chains_register h, List.filter_append, hnone, List.append_nil,
      List.filter_filter]
    simp only [Bool.and_self]
  exact congrArg Registry.mk hchains

/-- A main topic hands on what it was made with. -/
theorem AutoCreate.inheriting_inheriting_none (ac : AutoCreate) :
    ac.inheriting (some (ac.inheriting none)) = ac.inheriting none := by
  unfold inheriting
  cases ac.partitions <;> cases ac.replication <;> rfl

/-! ## §2. The second provision. -/

section Again

variable {p p' : Platform} {ac : AutoCreate} {nodes : List Destination}
  (h : p.provision ac nodes = (.ok (), p'))
  (names : (nodes.map Destination.name).Nodup)
  (mains : ∀ d ∈ nodes, d.isMain = true → d.name = d.source)
include h

/-- Every node has its topic. -/
theorem Platform.hasTopic_of_provision {d : Destination} (hd : d ∈ nodes) :
    p'.broker.hasTopic d.name = true := by
  rw [Broker.hasTopic_iff_of_log? (log?_of_provision h d.name), Option.isSome_map,
    List.find?_isSome]
  exact Or.inr ⟨d, hd, beq_self_eq_true d.name⟩

include names mains

/-- **What is asked for afterwards is what was asked for before.** -/
theorem Platform.requestsOn_of_provision :
    ac.requestsOn p'.broker nodes = ac.requestsOn p.broker nodes := by
  have hinherits : ∀ source, ac.inheriting (p'.broker.inherited? nodes source)
      = ac.inheriting (p.broker.inherited? nodes source) := by
    intro source
    unfold Broker.inherited?
    by_cases hmem : source ∈ mainsOf nodes
    · rw [if_pos hmem, if_pos hmem]
      obtain ⟨main, hmain, rfl⟩ := List.mem_map.1 hmem
      obtain ⟨hin, hisMain⟩ := List.mem_filter.1 hmain
      have hname := mains main hin hisMain
      have hlog := log?_of_provision h main.name
      rw [find?_name_of_mem names hin, hname] at hlog
      unfold Broker.layout?
      cases hbefore : p.broker.log? main.source with
      | some log =>
          rw [hlog, hbefore]
          rfl
      | none =>
          -- the main topic was made without anything to inherit
          have hnothing : p.broker.inherited? nodes main.source = none := by
            unfold Broker.inherited? Broker.layout?
            rw [if_pos hmem, hbefore]
            rfl
          rw [hlog, hbefore]
          show ac.inheriting (some (ac.inheriting (p.broker.inherited? nodes main.source))) = _
          rw [hnothing]
          exact ac.inheriting_inheriting_none
    · rw [if_neg hmem, if_neg hmem]
  apply List.map_congr_left
  intro d _
  rw [hinherits]

/-- **A second provision for the same nodes succeeds and creates nothing.** -/
theorem Platform.provision_again (registry : Registry) :
    ∃ admin, ({ p' with registry := registry } : Platform).provision ac nodes
      = (.ok (), { p' with registry := registry, admin := admin }) := by
  obtain ⟨hcreated, _, hcreate, hdescribe⟩ := of_provision h
  have hpresent : p'.broker.createIfAbsent (ac.requestsOn p.broker nodes) = (.ok (), p'.broker) := by
    refine Broker.createIfAbsent_of_hasTopic _
      ((Broker.createIfAbsent_ok_iff _ _).1 (congrArg Prod.fst hcreated)) fun r hr => ?_
    obtain ⟨d, hd, rfl⟩ := List.mem_map.1 hr
    exact hasTopic_of_provision h hd
  -- no failure is left that could be due
  obtain ⟨known, admin, hlayouts, hnone⟩ :=
    Admin.layouts_of_no_failure (b := p'.broker) (mainsOf nodes) hdescribe
  have hrequests := ac.requests_eq (Admin.of_layouts hlayouts).1
  rw [requestsOn_of_provision h names mains] at hrequests
  have hlayouts : p'.admin.layouts p'.broker ((nodes.filter Destination.isMain).map
      Destination.source) = (.ok known, admin) := hlayouts
  have hagain := Admin.createRetrying_of_no_failure (hnone.trans hcreate) hpresent Admin.maxRetries
  unfold provision
  simp only [hlayouts, hrequests, hagain]
  exact ⟨_, rfl⟩

end Again

/-! ## §3. Declarations. -/

/-- The main nodes of a pass have the names of their source topics. -/
theorem Configuration.name_of_isMain {conf : Configuration} {topics : List String} {draws : Draws}
    {context : Context} (hbuild : conf.buildTopology topics draws = .ok context) {d : Destination}
    (hd : d ∈ context.topicNodes) (hisMain : d.isMain = true) : d.name = d.source := by
  obtain ⟨_, chain, hchain, hin⟩ := Context.of_mem_topicNodes hd
  obtain ⟨main, retries, terminal, hregular⟩ := regular_of_buildTopology hbuild hchain
  rw [hregular.eq_main hin hisMain, hregular.main_name, hregular.sources main (by simp)]

/-- **Declaring the chains again changes nothing.** -/
theorem Platform.declareTopology_again {p p' : Platform} {conf : Configuration}
    {topics : List String} {draws : Draws} {nodes : List Destination}
    (enabled : conf.autoCreate.enabled = true) (steady : conf.backoff.isRandom = false)
    (declared : p.declareTopology conf topics draws = (.ok nodes, p')) (draws' : Draws) :
    ∃ p'', p'.declareTopology conf topics draws' = (.ok nodes, p'')
      ∧ p''.toSystem = p'.toSystem := by
  obtain ⟨context, q, hbuild, rfl, hprovision, rfl⟩ := of_declareTopology_creating enabled declared
  obtain ⟨hsound, _⟩ := Configuration.of_buildTopology hbuild
  obtain ⟨admin, hagain⟩ := provision_again hprovision context.nodup_topicNodes
    (fun _ => Configuration.name_of_isMain hbuild) (p.registry.register context)
  unfold declareTopology
  rw [Configuration.buildTopology_of_not_random steady topics draws' draws, hbuild]
  simp only [if_pos enabled, hagain, Registry.register_register hsound.sources]
  exact ⟨_, rfl, rfl⟩

/-- **Declaring chains is complete, minimal and idempotent, and copies find their topics.**  After a
declaration with auto-creation and delays that are not drawn: the chains are in force, and every node
of them that has a topic has one on the broker; a topic that was not there before is one of these; a
topic that was there has the same log; declaring the chains again gives the same nodes, and leaves
topics, chains and all else as they are.  Afterwards a copy that a newly started listener of one of
the source topics is about to publish is always for a topic that exists, so that nothing but a failure
that was asked for makes the publish fail, as long as other chains for these source topics come into
force only once their topics exist. -/
theorem declaration_provides_its_topics {p p' : Platform} {conf : Configuration}
    {topics : List String} {draws : Draws} {nodes : List Destination}
    (enabled : conf.autoCreate.enabled = true) (steady : conf.backoff.isRandom = false)
    (declared : p.declareTopology conf topics draws = (.ok nodes, p')) :
    ∃ context, conf.buildTopology topics draws = .ok context
      ∧ context.chains.map Chain.source = topics ∧ nodes = context.topicNodes
      ∧ (∀ chain ∈ context.chains, p'.registry.chain? chain.source = some chain
        ∧ ∀ d ∈ chain.destinations, d.hasTopic = true → p'.broker.hasTopic d.name = true)
      ∧ (∀ name, p'.broker.hasTopic name = true → p.broker.hasTopic name = true
        ∨ ∃ chain ∈ context.chains, ∃ d ∈ chain.destinations, d.hasTopic = true ∧ d.name = name)
      ∧ (∀ name log, p.broker.log? name = some log → p'.broker.log? name = some log)
      ∧ (∀ draws', ∃ p'', p'.declareTopology conf topics draws' = (.ok nodes, p'')
        ∧ p''.toSystem = p'.toSystem)
      ∧ ∀ s, p'.toSystem.Providing topics s → ∀ (i : Nat) c out, p'.consumers.length ≤ i →
        s.consumers[i]? = some c → c.listener.node.source ∈ topics → c.phase.copy? = some out →
          s.broker.hasTopic out.topic = true
          ∧ (s.broker.failing = 0 → (s.broker.publish out s.clock.wall).1 = .ok ()) := by
  have hagain := Platform.declareTopology_again enabled steady declared
  obtain ⟨context, q, hbuild, rfl, hprovision, rfl⟩ :=
    Platform.of_declareTopology_creating enabled declared
  obtain ⟨hsound, rfl⟩ := Configuration.of_buildTopology hbuild
  have hlog := Platform.log?_of_provision hprovision
  have hforce : ∀ chain ∈ context.chains,
      (p.registry.register context).chain? chain.source = some chain :=
    fun chain hchain => p.registry.chain?_register context hsound.sources hchain
  have hcomplete : ∀ chain ∈ context.chains, ∀ d ∈ chain.destinations, d.hasTopic = true →
      q.broker.hasTopic d.name = true := by
    intro chain hchain d hd htopic
    obtain ⟨d', hd', hname⟩ := Context.exists_topicNode hchain hd htopic
    rw [← hname]
    exact Platform.hasTopic_of_provision hprovision hd'
  refine ⟨context, hbuild, rfl, rfl, fun chain hchain => ⟨hforce chain hchain, hcomplete chain hchain⟩,
    fun name htopic => ?_, fun name log hbefore => ?_, hagain, ?_⟩
  · rw [Broker.hasTopic_iff_of_log? (hlog name), Option.isSome_map, List.find?_isSome] at htopic
    refine htopic.imp id fun ⟨d, hd, hname⟩ => ?_
    obtain ⟨hasTopic, chain, hchain, hin⟩ := Context.of_mem_topicNodes hd
    exact ⟨chain, hchain, d, hin, hasTopic, beq_iff_eq.1 hname⟩
  · show q.broker.log? name = some log
    rw [hlog, hbefore]
    rfl
  · intro s run i c out hle here hsource hcopy
    have hprovided := System.provided_of_context
      (s := { q with registry := p.registry.register context }.toSystem) hforce hcomplete
    have htopic := (hprovided.supplied.run run).copies i c out hle here hsource hcopy
    exact ⟨htopic, fun hnone => Broker.publish_of_hasTopic htopic hnone s.clock.wall⟩

namespace Orders

/-- A broker that refuses what nobody created. -/
def strictly : Simulation := { broker := { strict := true } }

/-- The platform with the chain of one topic. -/
def declared : Platform :=
  (strictly.toPlatform.declareTopology configuration ["orders"] application.draws).2

/-- The first node of that chain. -/
def declaredNode : Destination :=
  ((declared.registry.chain? "orders").bind fun chain => chain.destinations[0]?).getD default

/-- A listener is started on it, and a record of its topic fails. -/
def copyingOnce : List Action :=
  .start (application.listenerOf configuration declaredNode) (.named "main") "retrytopic"
    :: .publish { topic := "orders" } :: delivery 0 []

/-- The system in which the copy of that record is about to be published. -/
def copying : System := (declared.toSystem.run copyingOnce).getD {}

end Orders

open Orders in
/-- Declaring the chain of a topic twice is declaring it once, and the copy of a record that failed
is accepted by a strict broker. -/
theorem declaration_provides_its_topics_of_orders :
    (∃ nodes p'', declared.declareTopology configuration ["orders"] (Draws.ofSeed 1) = (.ok nodes, p'')
      ∧ p''.toSystem = declared.toSystem)
    ∧ ∃ c ∈ copying.consumers[0]?, ∃ out ∈ c.phase.copy?,
      (copying.broker.publish out copying.clock.wall).1 = .ok () := by
  obtain ⟨nodes, hdeclared⟩ : ∃ nodes, strictly.toPlatform.declareTopology configuration ["orders"]
      application.draws = (.ok nodes, declared) := ⟨_, Prod.ext (by decide +kernel) rfl⟩
  obtain ⟨context, _, _, _, _, _, _, hagain, hcopies⟩ :=
    declaration_provides_its_topics rfl rfl hdeclared
  obtain ⟨p'', hsecond, hsame⟩ := hagain (Draws.ofSeed 1)
  have hran : declared.toSystem.run copyingOnce = some copying := by decide +kernel
  have hrun : declared.toSystem.Providing ["orders"] copying := by
    refine .of_run hran fun a ha context heq => ?_
    rw [heq] at ha
    simp [copyingOnce, delivery] at ha
  obtain ⟨c, here, hsource, hsome⟩ : ∃ c ∈ copying.consumers[0]?,
      c.listener.node.source ∈ ["orders"] ∧ c.phase.copy?.isSome = true := by
    decide +kernel
  obtain ⟨out, hcopy⟩ := Option.isSome_iff_exists.1 hsome
  exact ⟨⟨nodes, p'', hsecond, hsame⟩, c, here, out, hcopy,
    (hcopies copying hrun 0 c out (by decide +kernel) here hsource hcopy).2 (by decide +kernel)⟩

namespace Orders

/-- The endpoint of the topic, wired on the strict broker. -/
def strictEndpoint : Simulation :=
  (Simulation.configureWith strictly application configuration ["orders"] "main").2

/-- Retry topics of another name, which nobody is to create. -/
def elsewhere : Configuration :=
  { configuration with retrySuffix := "-again", autoCreate := { enabled := false } }

/-- The platform of the endpoint after its chain is replaced by that of the other configuration. -/
def rerouted : Platform :=
  (strictEndpoint.toPlatform.declareTopology elsewhere ["orders"] application.draws).2

end Orders

open Orders in
/-- An endpoint whose topics were all provided for can be refused a copy later: the chain that is in
force by then was declared without creating its topics. -/
theorem later_chain_can_lack_topics :
    (∃ e, Simulation.configureWith strictly application configuration ["orders"] "main"
      = (.ok e, strictEndpoint))
    ∧ (∃ nodes, strictEndpoint.toPlatform.declareTopology elsewhere ["orders"] application.draws
      = (.ok nodes, rerouted))
    ∧ ∃ s ∈ rerouted.toSystem.run (.publish { topic := "orders" } :: delivery 0 []),
        ∃ c ∈ s.consumers, c.listener.node.source = "orders" ∧ ∃ out ∈ c.phase.copy?,
          (s.broker.publish out s.clock.wall).1 = .error (.publish "Unknown topic 'orders-again'") := by
  refine ⟨⟨⟨["orders"], [0, 1, 2]⟩, Prod.ext (by decide +kernel) rfl⟩,
    ⟨_, Prod.ext (by decide +kernel) rfl⟩, ?_⟩
  decide +kernel

end Redelivery
