/-
  Redelivery.Proofs.Conservation.Wiring
  ─────────────────────────────────────
  **An endpoint that was just wired is in order.**

  Before its consumers are started there is nobody at work, and every record
  is one of its own that waits behind the floor.  The chains of the pass are
  in force by then, and starting the consumers is a run like any other.
-/
import Redelivery.Proofs.Conservation.Conserved
import Redelivery.Proofs.Topology.Context
import Redelivery.Wiring.Endpoint

namespace Redelivery

/-! ## §1. Nobody at work. -/

theorem Ledger.getElem?_opening {b : Broker} {topic : String} {k : Nat} {p : Place}
    (h : ((opening b).copies topic)[k]? = some p) :
    p = ⟨topic, k⟩ ∧ k < (b.records topic).length := by
  have h : ((List.range (b.records topic).length).map (Place.mk topic))[k]? = some p := h
  rw [List.getElem?_map] at h
  obtain ⟨n, hn, rfl⟩ := Option.map_eq_some_iff.1 h
  obtain ⟨hlt, hget⟩ := List.getElem?_eq_some_iff.1 hn
  rw [List.getElem_range] at hget
  rw [List.length_range] at hlt
  exact ⟨by rw [hget], hlt⟩

/-- The group has committed no more of a topic than there is. -/
def Broker.Within (b : Broker) (group : String) : Prop :=
  ∀ topic, b.floor group topic ≤ (b.records topic).length

variable {w : Roster} {s s' s₀ : System} {L L₀ : Ledger}

/-- Where there are no consumers, the staff is complete. -/
theorem Staffed.of_nobody (inForce : w.InForce s.registry) (lawful : s.broker.Lawful)
    (within : s.broker.Within w.group) (consumers : s.consumers = []) (journal : s.journal = []) :
    Staffed w s := by
  have hnobody : ∀ (i : Nat) c, s.consumers[i]? ≠ some c := by
    intro i c hc
    rw [consumers] at hc
    cases hc
  exact
    { inForce := inForce
      lawful := lawful
      floor := within
      employed := fun i c hc => absurd hc (hnobody i c)
      apart := fun i _ c _ _ hc => absurd hc (hnobody i c)
      sole := fun i _ c _ _ hc => absurd hc (hnobody i c)
      journal := by
        rw [journal]
        exact System.plain_nil.holdsConcluded s.broker
      failures := fun i c _ hc => absurd hc (hnobody i c) }

/-- **A system without consumers is in order**, once the chains are in force. -/
theorem InOrder.opening (inForce : w.InForce s.registry) (lawful : s.broker.Lawful)
    (within : s.broker.Within w.group) (consumers : s.consumers = []) (journal : s.journal = []) :
    InOrder w (s.broker.floor w.group) s (.opening s.broker) := by
  -- nobody is done with anything, so topics are dealt with up to the floor
  have hreached : ((Ledger.opening s.broker).book s w.group).reached = s.broker.floor w.group := by
    funext topic
    show s.broker.floor w.group topic + (s.settled topic).toNat = _
    unfold System.settled
    rw [consumers]
    rfl
  have hcopies : ∀ (topic : String) (k : Nat) (p : Place),
      (((Ledger.opening s.broker).book s w.group).copies topic)[k]? = some p → p = ⟨topic, k⟩ :=
    fun topic k p hp => (Ledger.getElem?_opening hp).1
  refine ⟨.of_nobody inForce lawful within consumers journal, Ledger.covers_opening s.broker, ?_, ?_,
    .opening hcopies _⟩
  · intro topic k p r hp hr
    cases hcopies topic k p hp
    exact ⟨r, hr, rfl, rfl⟩
  · rw [← hreached]
    refine .opening hcopies ?_ ?_
    · intro topic
      rw [hreached]
      show _ ≤ ((Ledger.opening s.broker).copies topic).length
      exact Nat.le_trans (within topic) (Nat.le_of_eq (Ledger.covers_opening s.broker topic).symm)
    · intro p
      show Ledger.endings _ s.journal p = []
      rw [journal]
      rfl

/-! ## §2. Starting the consumers. -/

theorem Roster.Run.trans (run : w.Run s₀ L₀ s L) {L' : Ledger} (more : w.Run s L s' L') :
    w.Run s₀ L₀ s' L' := by
  induction more with
  | start => exact run
  | step before permits taken ih => exact ih.step permits taken

/-- A consumer that is started, at a topic without a consumer. -/
theorem Roster.Run.started (run : w.Run s₀ L₀ s L) {l : Listener} {handler : Handler}
    (hok : s.start l handler w.group = .ok s') (node : l.node ∈ w.nodes)
    (free : ∀ c ∈ s.consumers, c.topic ≠ l.node.name) : w.Run s₀ L₀ s' L := by
  have taken : s.step? (.start l handler w.group) = some s' := by
    show (s.start l handler w.group).toOption = some s'
    rw [hok]
    rfl
  have permits : w.Permits s (.start l handler w.group) :=
    ⟨rfl, node, fun c hc heq => absurd heq (free c hc)⟩
  have hnext := run.step permits taken
  have hledger : L.after s (.start l handler w.group) s' = L := by
    apply Ledger.grown_of_records
    rw [System.of_start hok]
    exact (Broker.still_subscribe s.broker l.node.name w.group).records
  rw [hledger] at hnext
  exact hnext

/-- What starting consumers leaves as it is. -/
structure Simulation.Started (s s' : Simulation) (listeners : List (Listener × Handler)) : Prop where
  nodes : s'.consumers.map (fun c => c.listener.node)
    = s.consumers.map (fun c => c.listener.node) ++ listeners.map fun p => p.1.node
  still : s.broker.Still s'.broker
  registry : s'.registry = s.registry

/-- **Starting the consumers of an endpoint is a run.** -/
theorem Roster.Run.startAll {ids : List Nat} {sim' : Simulation}
    (listeners : List (Listener × Handler)) : ∀ (sim : Simulation) (started : List Nat),
    w.Run s₀ L₀ sim.toSystem L → (∀ p ∈ listeners, p.1.node ∈ w.nodes) →
    (listeners.map fun p => p.1.node.name).Nodup →
    (∀ c ∈ sim.consumers, c.topic ∉ listeners.map fun p => p.1.node.name) →
    sim.startAll w.group started listeners = (.ok ids, sim') →
    w.Run s₀ L₀ sim'.toSystem L ∧ sim.Started sim' listeners := by
  -- induction on the consumers that are still to be started, none of whose topics is taken
  induction listeners with
  | nil =>
      intro sim started run _ _ _ hok
      cases hok
      exact ⟨run, (List.append_nil _).symm, ⟨fun _ => rfl, rfl⟩, rfl⟩
  | cons p rest ih =>
      obtain ⟨l, handler⟩ := p
      intro sim started run hnodes hnames hfree hok
      unfold Simulation.startAll at hok
      cases hstart : sim.toSystem.start l handler w.group with
      | error e =>
          rw [hstart] at hok
          cases hok
      | ok system =>
          rw [hstart] at hok
          rw [List.map_cons, List.nodup_cons] at hnames
          have hsystem := System.of_start hstart
          have hrun : w.Run s₀ L₀ (sim.setSystem system).toSystem L := by
            refine run.started hstart (hnodes _ List.mem_cons_self) fun c hc heq => ?_
            apply hfree c hc
            rw [heq]
            exact List.mem_cons_self
          -- the new consumer works at a topic that is not among the rest
          have hrest : ∀ c ∈ (sim.setSystem system).consumers,
              c.topic ∉ rest.map fun p => p.1.node.name := by
            intro c hc
            have hc : c ∈ system.consumers := hc
            rw [hsystem] at hc
            rcases List.mem_append.1 hc with hold | hnew
            · exact fun hmem => hfree c hold (List.mem_cons_of_mem _ hmem)
            · rw [List.mem_singleton] at hnew
              rw [hnew]
              exact hnames.1
          obtain ⟨hend, hstarted⟩ := ih (sim.setSystem system) _ hrun
            (fun p hp => hnodes p (List.mem_cons_of_mem _ hp)) hnames.2 hrest hok
          refine ⟨hend, ?_, ?_, ?_⟩
          · rw [hstarted.nodes]
            show system.consumers.map _ ++ _ = _
            rw [hsystem, List.map_append, List.append_assoc]
            rfl
          · have hfirst : sim.broker.Still system.broker := by
              rw [hsystem]
              exact Broker.still_subscribe sim.broker l.node.name w.group
            exact ⟨fun t => (hstarted.still.records t).trans (hfirst.records t),
              hstarted.still.committed.trans hfirst.committed⟩
          · rw [hstarted.registry]
            show system.registry = sim.registry
            rw [hsystem]

/-! ## §3. Declaring the chains. -/

/-- **A registered pass is in force**: each topic of its chains has one of its nodes. -/
theorem Context.Sound.inForce {context : Context} (h : context.Sound) (registry : Registry)
    (group : String) :
    Roster.InForce ⟨group, context.chains.map Chain.source, context.topicNodes⟩
      (registry.register context) := by
  have hchain : ∀ chain ∈ context.chains,
      (registry.register context).chain? chain.source = some chain :=
    fun chain => registry.chain?_register context h.sources
  refine ⟨?_, ?_, ?_⟩
  · intro source hsource
    obtain ⟨chain, hmem, rfl⟩ := List.mem_map.1 hsource
    exact ⟨chain, hchain chain hmem, (h.chains chain hmem).begins⟩
  · intro source hsource topic hreaches
    obtain ⟨chain, hmem, rfl⟩ := List.mem_map.1 hsource
    obtain ⟨chain', hchain', d, hd, htopic, rfl⟩ := hreaches
    rw [hchain chain hmem] at hchain'
    cases hchain'
    exact Context.exists_topicNode hmem hd htopic
  · intro d hd
    obtain ⟨htopic, chain, hmem, hin⟩ := Context.of_mem_topicNodes hd
    have hsource := (h.chains chain hmem).sources d hin
    rw [hsource]
    exact ⟨List.mem_map_of_mem hmem, chain, hchain chain hmem, d, hin, htopic, rfl⟩

theorem Admin.alike_create (a : Admin) (b : Broker) (requests : List TopicRequest) :
    b.Alike (a.create b requests).2.2 := by
  unfold create
  by_cases hfails : 0 < a.createFailures
  · simp only [if_pos hfails]
    exact .refl b
  · simp only [if_neg hfails]
    exact Broker.alike_createIfAbsent b requests

theorem Admin.alike_createRetrying (retries : Nat) : ∀ (a : Admin) (b : Broker)
    (requests : List TopicRequest), b.Alike (a.createRetrying b requests retries).2.2 := by
  induction retries with
  | zero => exact fun a b requests => a.alike_create b requests
  | succ retries ih =>
      intro a b requests
      have halike := a.alike_create b requests
      unfold createRetrying
      split
      · rename_i e a' b' heq
        rw [heq] at halike
        exact halike.trans (ih a' b' requests)
      · exact halike

/-- A platform after its topics were seen to: logs and consumers are the same. -/
structure Platform.Prepared (p p' : Platform) : Prop where
  broker : p.broker.Alike p'.broker
  consumers : p'.consumers = p.consumers
  journal : p'.journal = p.journal

theorem Platform.Prepared.refl (p : Platform) : p.Prepared p := ⟨.refl _, rfl, rfl⟩

theorem Platform.prepared_provision (p : Platform) (ac : AutoCreate) (nodes : List Destination) :
    p.Prepared (p.provision ac nodes).2 ∧ (p.provision ac nodes).2.registry = p.registry := by
  unfold provision
  cases hlayouts : p.admin.layouts p.broker ((nodes.filter Destination.isMain).map
      Destination.source) with
  | mk answer admin =>
      cases answer with
      | error e =>
          simp only [hlayouts]
          exact ⟨⟨.refl _, rfl, rfl⟩, trivial⟩
      | ok known =>
          simp only [hlayouts]
          exact ⟨⟨Admin.alike_createRetrying _ _ _ _, rfl, rfl⟩, trivial⟩

/-- **What a successful declaration does.** -/
theorem Platform.of_declareTopology {p p' : Platform} {c : Configuration} {topics : List String}
    {draws : Draws} {nodes : List Destination}
    (h : p.declareTopology c topics draws = (.ok nodes, p')) :
    ∃ context, c.buildTopology topics draws = .ok context ∧ nodes = context.topicNodes
      ∧ p.Prepared p' ∧ p'.registry = p.registry.register context := by
  unfold declareTopology at h
  cases hbuild : c.buildTopology topics draws with
  | error fault =>
      rw [hbuild] at h
      cases h
  | ok context =>
      rw [hbuild] at h
      simp only at h
      generalize hq : (if c.autoCreate.enabled = true then
        p.provision c.autoCreate context.topicNodes else (.ok (), p)) = q at h
      have hprepared : p.Prepared q.2 ∧ q.2.registry = p.registry := by
        rw [← hq]
        split
        · exact p.prepared_provision c.autoCreate context.topicNodes
        · exact ⟨.refl p, rfl⟩
      obtain ⟨answer, p₁⟩ := q
      obtain ⟨hprepared, hregistry⟩ := hprepared
      have hregistry : p₁.registry = p.registry := hregistry
      cases answer with
      | error e => cases h
      | ok u =>
          cases h
          refine ⟨context, rfl, rfl, ⟨hprepared.broker, hprepared.consumers, hprepared.journal⟩, ?_⟩
          show p₁.registry.register context = _
          rw [hregistry]

/-! ## §4. A wired endpoint. -/

/-- Nobody has worked on the simulation yet, and the group has committed no more than there is. -/
structure Simulation.Fresh (s : Simulation) (group : String) : Prop where
  consumers : s.consumers = []
  journal : s.journal = []
  lawful : s.broker.Lawful
  within : s.broker.Within group

/-- The roster of an endpoint that was wired: its consumers' nodes. -/
def Simulation.roster (s : Simulation) (group : String) (topics : List String) : Roster :=
  ⟨group, topics, s.consumers.map fun c => c.listener.node⟩

theorem Ledger.opening_of_still {b b' : Broker} (h : b.Still b') : opening b' = opening b := by
  unfold opening
  congr 1
  funext topic
  rw [h.records]

/-- The consumers of a declared pass are started. -/
theorem Simulation.run_of_startAll {sim sim' : Simulation} {group : String} {context : Context}
    {registry : Registry} {listeners : List (Listener × Handler)} {ids : List Nat}
    (fresh : sim.Fresh group) (hsound : context.Sound)
    (hregistry : sim.registry = registry.register context)
    (hnodes : listeners.map (fun p => p.1.node) = context.topicNodes)
    (hok : sim.startAll group [] listeners = (.ok ids, sim')) :
    sim.broker.Still sim'.broker
      ∧ InOrder (sim'.roster group (context.chains.map Chain.source)) (sim'.broker.floor group)
          sim.toSystem (.opening sim'.broker)
      ∧ (sim'.roster group (context.chains.map Chain.source)).Run sim.toSystem
          (.opening sim'.broker) sim'.toSystem (.opening sim'.broker) := by
  have hnames : listeners.map (fun p => p.1.node.name) = context.topicNodes.map Destination.name := by
    rw [← hnodes, List.map_map]
    rfl
  have hstart : Roster.Run ⟨group, context.chains.map Chain.source, context.topicNodes⟩
      sim.toSystem (.opening sim.broker) sim.toSystem (.opening sim.broker) := .start
  have hrun := Roster.Run.startAll listeners sim [] hstart ?_ ?_ ?_ hok
  · obtain ⟨hrun, hstarted⟩ := hrun
    have hroster : sim'.roster group (context.chains.map Chain.source)
        = ⟨group, context.chains.map Chain.source, context.topicNodes⟩ := by
      unfold roster
      rw [hstarted.nodes, fresh.consumers, hnodes]
      rfl
    have hfloor : sim'.broker.floor group = sim.broker.floor group := by
      funext topic
      exact hstarted.still.floor group topic
    rw [hroster, hfloor, Ledger.opening_of_still hstarted.still]
    refine ⟨hstarted.still, ?_, hrun⟩
    refine InOrder.opening ?_ fresh.lawful fresh.within fresh.consumers fresh.journal
    rw [hregistry]
    exact hsound.inForce registry group
  · intro p hp
    show p.1.node ∈ context.topicNodes
    rw [← hnodes]
    exact List.mem_map_of_mem hp
  · rw [hnames]
    exact context.nodup_topicNodes
  · intro c hc
    rw [fresh.consumers] at hc
    cases hc

/-- **What a successful wiring does**: the chains are declared, and a consumer is started at each
node. -/
theorem Simulation.of_configureWith {sim sim' : Simulation} {a : Application}
    {conf : Configuration} {topics : List String} {handler : String} {e : Endpoint}
    (wired : sim.configureWith a conf topics handler = (.ok e, sim')) :
    ∃ deadLetters nodes platform ids,
      sim.toPlatform.declareTopology conf topics a.draws = (.ok nodes, platform)
      ∧ startAll { toPlatform := platform, scripts := sim.scripts } (conf.group.getD a.group) []
          (nodes.map fun node => (a.listenerOf conf node,
            if node.isDeadLetter then deadLetters else .named handler)) = (.ok ids, sim')
      ∧ e = ⟨topics, ids⟩ := by
  unfold configureWith at wired
  cases hdead : a.deadLetterHandler conf with
  | error fault =>
      rw [hdead] at wired
      cases wired
  | ok deadLetters =>
      rw [hdead] at wired
      simp only at wired
      cases hdeclared : sim.toPlatform.declareTopology conf topics a.draws with
      | mk declared platform =>
          rw [hdeclared] at wired
          cases declared with
          | error err => cases wired
          | ok nodes =>
              simp only at wired
              refine ⟨deadLetters, nodes, platform, ?_⟩
              cases hall : startAll { toPlatform := platform, scripts := sim.scripts }
                  (conf.group.getD a.group) [] (nodes.map fun node => (a.listenerOf conf node,
                    if node.isDeadLetter then deadLetters else .named handler)) with
              | mk answer sim₁ =>
                  rw [hall] at wired
                  cases answer with
                  | error err => cases wired
                  | ok ids =>
                      cases wired
                      exact ⟨ids, rfl, rfl, rfl⟩

theorem Simulation.Fresh.of_prepared {sim sim' : Simulation} {group : String}
    (h : sim.Fresh group) (hprepared : sim.toPlatform.Prepared sim'.toPlatform) :
    sim'.Fresh group where
  consumers := hprepared.consumers.trans h.consumers
  journal := hprepared.journal.trans h.journal
  lawful := h.lawful.of_alike hprepared.broker
  within := by
    intro topic
    rw [hprepared.broker.floor, hprepared.broker.records]
    exact h.within topic

/-- **Wiring an endpoint is a run**, from a system without consumers in which the chains are in
force. -/
theorem Simulation.run_of_configureWith {sim sim' : Simulation} {a : Application}
    {conf : Configuration} {topics : List String} {handler : String} {e : Endpoint}
    (fresh : sim.Fresh (conf.group.getD a.group))
    (wired : sim.configureWith a conf topics handler = (.ok e, sim')) :
    ∃ s₀ : System, s₀.broker.Still sim'.broker
      ∧ InOrder (sim'.roster (conf.group.getD a.group) topics)
          (sim'.broker.floor (conf.group.getD a.group)) s₀ (.opening sim'.broker)
      ∧ (sim'.roster (conf.group.getD a.group) topics).Run s₀ (.opening sim'.broker)
          sim'.toSystem (.opening sim'.broker) := by
  obtain ⟨deadLetters, nodes, platform, ids, hdeclared, hstarted, _⟩ := of_configureWith wired
  obtain ⟨context, hbuild, rfl, hprepared, hregistry⟩ := Platform.of_declareTopology hdeclared
  obtain ⟨hsound, rfl⟩ := Configuration.of_buildTopology hbuild
  have hfresh : Fresh { toPlatform := platform, scripts := sim.scripts } (conf.group.getD a.group) :=
    fresh.of_prepared hprepared
  refine ⟨_, run_of_startAll hfresh hsound hregistry ?_ hstarted⟩
  rw [List.map_map]
  exact List.map_id _

end Redelivery
