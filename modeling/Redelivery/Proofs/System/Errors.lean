/-
  Redelivery.Proofs.System.Errors
  ───────────────────────────────
  **What a listener of an endpoint can fail with.**

  While the chain of its source topic is in force, the registry can always
  say where a record of the listener goes, so there is one error left: the
  copy could not be published, as often as the policy allows.

      concluded r (error e)  →  e = fatal topic (notRepublished …)

  The consumers of an endpoint have such listeners from the moment they are
  started, whether or not the wiring as a whole succeeds.
-/
import Redelivery.Proofs.Conservation.Endpoint
import Redelivery.Proofs.System.Paths
import Redelivery.Proofs.System.Steps
import Redelivery.Proofs.Topology.Progress

namespace Redelivery

/-! ## §1. Deliveries. -/

/-- The error says that no copy could be published. -/
def Listener.GaveUpWith (l : Listener) (e : Error) : Prop :=
  ∃ next err, e = .fatal l.node.name (.notRepublished next err)

/-- Publishing was not tried more often than allowed, and it is the only thing that can fail. -/
def Delivery.Safe (l : Listener) : Delivery → Prop
  | .publishing _ _ failures _ => failures ≤ l.republish.maxTimes.toNat
  | .ended (.error e) => l.GaveUpWith e
  | _ => True

/-- **A verdict is never an error** while the node is in force. -/
theorem Listener.dropped_of_finish {l : Listener} {registry : Registry} {now : Int64} {r : Record}
    {attempt : UInt32} {f : Failure} {result : Except Error Outcome}
    (hforce : registry.InForce l.node)
    (hv : (l.verdict registry now r attempt f).1 = .finish result) : result = .ok .dropped := by
  rcases of_verdict_finish hv with hdropped | ⟨e, hrouted, hresult⟩
  · exact hdropped
  · obtain ⟨reason, rfl⟩ := hforce.of_error hrouted
    rw [verdict_of_fatal hrouted] at hv
    cases hv
    rfl

theorem RepublishPolicy.lt_of_pause {p : RepublishPolicy} {k extra pause : Nat}
    (h : p.pause? k extra = some pause) : k < p.maxTimes.toNat := by
  unfold pause? at h
  split at h
  · assumption
  · cases h

theorem RepublishPolicy.le_of_no_pause {p : RepublishPolicy} {k extra : Nat}
    (h : p.pause? k extra = none) : p.maxTimes.toNat ≤ k := by
  unfold pause? at h
  split at h
  · cases h
  · omega

namespace Delivery

variable {consumer : Option Nat} {l : Listener} {h : Handler} {r : Record} {choice : Choice}
  {s s' : Stage} {d d' : Delivery}

/-- One step keeps a delivery safe. -/
theorem Safe.move (hd : d.Safe l) (hforce : s.registry.InForce l.node)
    (move : Move consumer l h r choice s d s' d') : d'.Safe l := by
  cases move with
  | called attempt =>
      cases h with
      | named name => trivial
      | logging level => trivial
  | succeeded due => trivial
  | brokeDown due => trivial
  | again due verdict => trivial
  | finished due verdict =>
      rw [Listener.dropped_of_finish hforce verdict]
      trivial
  | republishing due verdict => exact Nat.zero_le _
  | rested due => trivial
  | published due answer => trivial
  | refused due answer left => exact RepublishPolicy.lt_of_pause left
  | gaveUp due answer left => exact ⟨_, _, rfl⟩

/-- **A delivery ends with an error only where publishing failed as often as allowed.** -/
theorem Safe.of_error (hd : d.Safe l) (hforce : s.registry.InForce l.node) {e : Error}
    (move : Move consumer l h r choice s d s' (.ended (.error e))) :
    ∃ out outcome wake broker err, d = .publishing out outcome l.republish.maxTimes.toNat wake
      ∧ s.broker.publish out s.clock.wall = (.error err, broker)
      ∧ e = .fatal l.node.name (.notRepublished out.topic err) := by
  generalize hd' : Delivery.ended (.error e) = d' at move
  cases move with
  | called attempt => cases h <;> cases hd'
  | finished due verdict =>
      rw [Listener.dropped_of_finish hforce verdict] at hd'
      cases hd'
  | @gaveUp out outcome failures wake broker err due answer left =>
      cases hd'
      -- not tried more often than allowed, and not allowed to try again
      have hle : failures ≤ l.republish.maxTimes.toNat := hd
      have hge := RepublishPolicy.le_of_no_pause left
      have hfailures : failures = l.republish.maxTimes.toNat := by omega
      subst hfailures
      exact ⟨out, outcome, wake, broker, err, rfl, answer, rfl⟩
  | succeeded due => cases hd'
  | brokeDown due => cases hd'
  | again due verdict => cases hd'
  | republishing due verdict => cases hd'
  | rested due => cases hd'
  | published due answer => cases hd'
  | refused due answer left => cases hd'

end Delivery

/-! ## §2. One consumer along a run. -/

namespace System

/-- Consumer number `i` runs the listener `l`, whose node is in force; its delivery is safe, and
since the journal was `old` it concluded no record with an error but that of giving up. -/
structure Upright (s : System) (i : Nat) (old : List JournalEntry) (l : Listener) : Prop where
  inForce : s.registry.InForce l.node
  safe : ∃ c, s.consumers[i]? = some c ∧ c.listener = l
    ∧ ∀ r d, c.phase = .delivering r d → d.Safe l
  concluded : ∃ recent, s.journal = old ++ recent ∧ ∀ entry ∈ recent, entry.consumer = some i →
    ∀ r e, entry.event = .concluded r (.error e) → l.GaveUpWith e

variable {s s' : System} {i : Nat} {c : Consumer} {a : Action} {old : List JournalEntry}
  {l : Listener}

/-- **Every step keeps a consumer upright**, unless it puts another chain of its source topic in
force. -/
theorem Upright.step (h : s.Upright i old l) (step : Step s a s')
    (register : ∀ context, a = .register context →
      l.node.source ∉ context.chains.map Chain.source) : s'.Upright i old l := by
  obtain ⟨c, here, rfl, hsafe⟩ := h.safe
  refine ⟨?_, ?_, ?_⟩
  · rcases step.registry with hsame | ⟨context, haction, hregistry⟩
    · rw [hsame]
      exact h.inForce
    · rw [hregistry]
      exact h.inForce.register (register context haction)
  · obtain ⟨c', here', hgoes⟩ := step.consumer here
    refine ⟨c', here', hgoes.listener, fun r d hphase => ?_⟩
    rcases hgoes.phase with hsame | ⟨b, entries, advance⟩
    · exact hsafe r d (hsame.symm.trans hphase)
    · rcases advance.of_delivering hphase with rfl | ⟨d₀, choice, stage, hd₀, move⟩
      · trivial
      · exact (hsafe r d₀ hd₀).move h.inForce move
  · obtain ⟨recent, hjournal, hrecent⟩ := h.concluded
    obtain ⟨entries, hentries, hconcluded⟩ := step.journal
    refine ⟨recent ++ entries, by rw [hentries, hjournal, List.append_assoc], ?_⟩
    intro entry hentry howner r e hevent
    rcases List.mem_append.1 hentry with hold | hnew
    · exact hrecent entry hold howner r e hevent
    · -- what the consumer concludes now is how its delivery has ended
      obtain ⟨j, cj, hj, herej, hphase⟩ := hconcluded entry hnew r (.error e) hevent
      rw [howner] at hj
      cases hj
      rw [here] at herej
      cases herej
      exact hsafe r _ hphase

/-- **A consumer stays upright along a run** that puts no other chain of its source topic in force. -/
theorem Upright.path (h : s.Upright i old l)
    (path : Path (fun a => ∀ context, a = .register context →
      l.node.source ∉ context.chains.map Chain.source) s s') : s'.Upright i old l :=
  path.keeps (I := fun t => t.Upright i old l)
    (fun _ _ _ ht allowed taken => ht.step (.of_step taken) allowed) h

end System

/-! ## §3. Starting the consumers. -/

namespace Simulation

variable {sim sim' : Simulation}

theorem not_register_of_isInner {a : Action} (h : a.isInner = true) (context : Context) :
    a ≠ .register context := by
  rintro rfl
  cases h

/-- No chains are put in force. -/
def Keeps (a : Action) : Prop := ∀ context, a ≠ .register context

theorem path_startAll (group : String) (listeners : List (Listener × Handler)) :
    ∀ (sim : Simulation) (started : List Nat),
      System.Path Keeps sim.toSystem (sim.startAll group started listeners).2.toSystem := by
  induction listeners with
  | nil => exact fun sim started => .refl
  | cons p rest ih =>
      obtain ⟨l, handler⟩ := p
      intro sim started
      unfold startAll
      cases hstart : sim.toSystem.start l handler group with
      | error e => exact (leads_stopAll started sim).mono fun a => not_register_of_isInner
      | ok system =>
          have taken : sim.toSystem.step? (.start l handler group) = some system := by
            show (sim.toSystem.start l handler group).toOption = some system
            rw [hstart]
            rfl
          exact (System.Path.single (fun context h => by cases h) taken).trans
            (ih (sim.setSystem system) _)

/-- **Every consumer that is started is upright**, if the nodes of the listeners are in force. -/
theorem upright_of_startAll {group : String} {answer : Except Error (List Nat)}
    (listeners : List (Listener × Handler)) : ∀ (sim : Simulation) (started : List Nat),
    (∀ p ∈ listeners, sim.registry.InForce p.1.node) →
    sim.startAll group started listeners = (answer, sim') →
    ∀ i, sim.consumers.length ≤ i → i < sim'.consumers.length →
      ∃ l, sim'.toSystem.Upright i sim.journal l := by
  -- induction on the listeners that are still to be started
  induction listeners with
  | nil =>
      intro sim started _ hall i hle hlt
      cases hall
      omega
  | cons p rest ih =>
      obtain ⟨l, handler⟩ := p
      intro sim started hforce hall i hle hlt
      unfold startAll at hall
      cases hstart : sim.toSystem.start l handler group with
      | error e =>
          rw [hstart] at hall
          cases hall
          have hlength := (leads_stopAll started sim).length_eq
          omega
      | ok system =>
          rw [hstart] at hall
          have hall : (sim.setSystem system).startAll group (started ++ [sim.consumers.length]) rest
            = (answer, sim') := hall
          have hsystem := System.of_start hstart
          have hregistry : (sim.setSystem system).registry = sim.registry := by
            show system.registry = _
            rw [hsystem]
          have hjournal : (sim.setSystem system).journal = sim.journal := by
            show system.journal = _
            rw [hsystem]
          have hlength : (sim.setSystem system).consumers.length = sim.consumers.length + 1 := by
            show system.consumers.length = _
            rw [hsystem]
            simp
          by_cases hfirst : i = sim.consumers.length
          · -- the first one is upright at once, and the others are started by a path
            have hupright : (sim.setSystem system).toSystem.Upright i sim.journal l := by
              refine ⟨?_, ⟨⟨l, handler, group, .subscription sim.broker.nextSubscription,
                .polling sim.now, false, .kept⟩, ?_, rfl, fun r d hphase => by cases hphase⟩,
                [], ?_, fun entry hentry => by cases hentry⟩
              · rw [hregistry]
                exact hforce (l, handler) List.mem_cons_self
              · show system.consumers[i]? = _
                rw [hsystem, hfirst]
                simp
              · rw [hjournal, List.append_nil]
            have hpath := path_startAll group rest (sim.setSystem system)
              (started ++ [sim.consumers.length])
            rw [hall] at hpath
            exact ⟨l, hupright.path (hpath.mono fun a keeps context heq =>
              absurd heq (keeps context))⟩
          · have hrest := ih (sim.setSystem system) _
              (fun p hp => by rw [hregistry]; exact hforce p (List.mem_cons_of_mem _ hp)) hall i
              (by omega) hlt
            rw [hjournal] at hrest
            exact hrest

/-- The nodes of a registered pass are in force. -/
theorem inForce_of_mem_topicNodes {conf : Configuration} {topics : List String} {draws : Draws}
    {context : Context} (hbuild : conf.buildTopology topics draws = .ok context)
    (registry : Registry) {d : Destination} (hd : d ∈ context.topicNodes) :
    (registry.register context).InForce d := by
  obtain ⟨hsound, _⟩ := Configuration.of_buildTopology hbuild
  obtain ⟨htopic, chain, hchain, hmem⟩ := Context.of_mem_topicNodes hd
  obtain ⟨main, retries, terminal, hregular⟩ :=
    Configuration.regular_of_buildTopology hbuild hchain
  refine ⟨htopic, chain, main, retries, terminal, ?_, hregular, hmem⟩
  rw [(hsound.chains chain hchain).sources d hmem]
  exact registry.chain?_register context hsound.sources hchain

/-- Declaring chains starts nobody and concludes nothing. -/
theorem prepared_declareTopology (p : Platform) (conf : Configuration) (topics : List String)
    (draws : Draws) : p.Prepared (p.declareTopology conf topics draws).2 := by
  unfold Platform.declareTopology
  cases hbuild : conf.buildTopology topics draws with
  | error fault => exact .refl p
  | ok context =>
      simp only
      generalize hq : (if conf.autoCreate.enabled = true then
        p.provision conf.autoCreate context.topicNodes else (.ok (), p)) = q
      have hprepared : p.Prepared q.2 := by
        rw [← hq]
        split
        · exact (p.prepared_provision conf.autoCreate context.topicNodes).1
        · exact .refl p
      obtain ⟨answer, p₁⟩ := q
      cases answer with
      | error e => exact hprepared
      | ok u => exact ⟨hprepared.broker, hprepared.consumers, hprepared.journal⟩

/-- **Every consumer that a wiring starts is upright**, whatever the wiring answers. -/
theorem upright_of_configureWith {a : Application} {conf : Configuration} {topics : List String}
    {handler : String} {answer : Except (Interruption Error) Endpoint}
    (wired : sim.configureWith a conf topics handler = (answer, sim')) {i : Nat}
    (hle : sim.consumers.length ≤ i) (hlt : i < sim'.consumers.length) :
    ∃ l, sim'.toSystem.Upright i sim.journal l := by
  unfold configureWith at wired
  cases hdead : a.deadLetterHandler conf with
  | error fault =>
      rw [hdead] at wired
      cases wired
      omega
  | ok deadLetters =>
      rw [hdead] at wired
      simp only at wired
      have hprepared := prepared_declareTopology sim.toPlatform conf topics a.draws
      cases hdeclared : sim.toPlatform.declareTopology conf topics a.draws with
      | mk declared platform =>
          rw [hdeclared] at wired hprepared
          have hconsumers : platform.consumers = sim.consumers := hprepared.consumers
          cases declared with
          | error err =>
              cases wired
              have hlt : i < platform.consumers.length := hlt
              rw [hconsumers] at hlt
              omega
          | ok nodes =>
              simp only at wired
              obtain ⟨context, hbuild, rfl, _, hregistry⟩ :=
                Platform.of_declareTopology hdeclared
              generalize hlisteners : (context.topicNodes.map fun node => (a.listenerOf conf node,
                if node.isDeadLetter then deadLetters else .named handler)) = listeners at wired
              cases hall : startAll { toPlatform := platform, scripts := sim.scripts }
                  (conf.group.getD a.group) [] listeners with
              | mk started sim₁ =>
                  rw [hall] at wired
                  have hsim : sim₁ = sim' := by
                    cases started with
                    | error err =>
                        cases wired
                        rfl
                    | ok ids =>
                        cases wired
                        rfl
                  subst hsim
                  have hforce : ∀ p ∈ listeners, platform.registry.InForce p.1.node := by
                    intro p hp
                    rw [← hlisteners] at hp
                    obtain ⟨node, hnode, rfl⟩ := List.mem_map.1 hp
                    rw [hregistry]
                    exact inForce_of_mem_topicNodes hbuild _ hnode
                  have hupright := upright_of_startAll listeners
                    { toPlatform := platform, scripts := sim.scripts } [] hforce hall i
                    (by rw [hconsumers]; exact hle) hlt
                  rw [show platform.journal = sim.journal from hprepared.journal] at hupright
                  exact hupright

end Simulation

/-! ## §4. Progress. -/

/-- **Routing on a built chain makes progress, and a listener fails only by giving up a copy.**
First, in every registry filled by any calls: from a main or retry node a record goes to the same
node, if attempts are left, to the next one or to the last one, and from a dead-letter node to the
same node, or nowhere for good.  Second, for every consumer that a wiring started, successful or not,
along every run that puts no other chain of its source topic in force: it never concluded a record
with any error but that of giving up, and a delivery ends with that error only when publishing
failed once more than it may be repeated. -/
theorem routing_makes_progress :
    (∀ calls source chain, (Planning.run calls).registry.chain? source = some chain →
      ∀ p node, chain.destinations[p]? = some node → node.role ≠ .noOps →
      ∀ attempt f first now,
        (node.role ≠ .deadLetter → ∃ q next,
          (Planning.run calls).registry.resolve source node.name attempt f first now = .ok next
          ∧ chain.destinations[q]? = some next ∧ p ≤ q
          ∧ ((q = p ∧ attempt < node.maxAttempts) ∨ q = p + 1
            ∨ q + 1 = chain.destinations.length))
        ∧ (node.role = .deadLetter →
          (Planning.run calls).registry.resolve source node.name attempt f first now = .ok node
          ∨ ∃ reason, (Planning.run calls).registry.resolve source node.name attempt f first now
            = .error (.fatal node.name reason)))
    ∧ ∀ (sim : Simulation) a conf topics handler answer sim',
      sim.configureWith a conf topics handler = (answer, sim') →
      ∀ actions s, sim'.toSystem.run actions = some s →
      ∀ (i : Nat) c, sim.consumers.length ≤ i → i < sim'.consumers.length →
      s.consumers[i]? = some c →
      (∀ context, .register context ∈ actions →
        c.listener.node.source ∉ context.chains.map Chain.source) →
      (∃ recent, s.journal = sim.journal ++ recent
        ∧ ∀ entry ∈ recent, entry.consumer = some i →
          ∀ r e, entry.event = .concluded r (.error e) →
            ∃ next err, e = .fatal c.topic (.notRepublished next err))
      ∧ ∀ choice s' c' r e, s.step? (.proceed i choice) = some s' →
        s'.consumers[i]? = some c' → c'.phase = .delivering r (.ended (.error e)) →
          ∃ out outcome wake broker err,
            c.phase = .delivering r
              (.publishing out outcome c.listener.republish.maxTimes.toNat wake)
            ∧ s.broker.publish out s.clock.wall = (.error err, broker)
            ∧ e = .fatal c.topic (.notRepublished out.topic err) := by
  refine ⟨?_, ?_⟩
  · intro calls source chain hchain p node hnode hrole attempt f first now
    obtain ⟨main, retries, terminal, hregular⟩ := Planning.regular_of_chain? hchain
    refine ⟨fun hdead => ?_, fun hdead => ?_⟩
    · have hnotTerminal : node.role.isTerminal = false := by
        cases hcase : node.role <;> simp_all [Role.isTerminal]
      obtain ⟨q, next, hok, hq, hle, honward⟩ :=
        Registry.resolve_onward hchain hregular hnode hnotTerminal attempt f first now
      refine ⟨q, next, hok, hq, hle, ?_⟩
      cases honward with
      | stays left => exact Or.inl ⟨rfl, left⟩
      | next => exact Or.inr (Or.inl rfl)
      | last last => exact Or.inr (Or.inr last)
    · exact Registry.resolve_deadLetter hchain hregular hnode hdead attempt f first now
  · intro sim a conf topics handler answer sim' wired actions s ran i c hle hlt here keeps
    obtain ⟨l, hwired⟩ := Simulation.upright_of_configureWith wired hle hlt
    have hpath : System.Path (· ∈ actions) sim'.toSystem s := .of_run ran fun _ ha => ha
    -- the consumer runs the same listener from the start
    have hlistener : c.listener = l := by
      obtain ⟨c₀, hc₀, hl, _⟩ := hwired.safe
      obtain ⟨c₁, hc₁, heq, _⟩ := hpath.consumer hc₀
      rw [here] at hc₁
      cases hc₁
      exact heq.trans hl
    subst hlistener
    have hupright := hwired.path (hpath.mono fun a ha context haction =>
      keeps context (haction ▸ ha))
    refine ⟨hupright.concluded, ?_⟩
    intro choice s' c' r e taken here' hended
    obtain ⟨c₀, hc₀, _, hsafe⟩ := hupright.safe
    rw [here] at hc₀
    cases hc₀
    obtain ⟨b, x, c₁, entries, advance, rfl⟩ := System.Advances.of_proceed here taken
    rw [System.getElem?_put_self here] at here'
    cases here'
    rcases advance.of_delivering hended with hstart | ⟨d, choice', stage, hd, move⟩
    · cases hstart
    · obtain ⟨out, outcome, wake, broker, err, rfl, answer, rfl⟩ :=
        (hsafe r d hd).of_error hupright.inForce move
      exact ⟨out, outcome, wake, broker, err, hd, answer, rfl⟩

open Orders in
/-- A consumer whose copy was refused has concluded its record with that error. -/
theorem routing_makes_progress_of_refusal :
    ∃ r e, ⟨0, some 0, .concluded r (.error e)⟩ ∈ gaveUp.journal
      ∧ ∃ next err, e = .fatal "orders" (.notRepublished next err) := by
  have hran : (wired ["orders"]).toSystem.run givingUp = some gaveUp := by decide +kernel
  have hhere : gaveUp.consumers[0]?.map Consumer.topic = some "orders" := by decide +kernel
  obtain ⟨c, here, htopic⟩ := Option.map_eq_some_iff.1 hhere
  obtain ⟨⟨recent, hjournal, honly⟩, _⟩ := routing_makes_progress.2 {} application configuration
    ["orders"] "main" _ _ rfl givingUp gaveUp hran 0 c (by decide +kernel) (by decide +kernel) here
    (fun context hregister => absurd hregister (by simp [givingUp, delivery]))
  have hrecent : gaveUp.journal = recent := hjournal
  have hconcluded : ⟨0, some 0, .concluded { topic := "orders", timestamp := 1700000000000 }
      (.error (.fatal "orders" (.notRepublished "orders-retry"
        (.publish "Simulated publish failure to 'orders-retry'"))))⟩ ∈ gaveUp.journal := by
    decide +kernel
  obtain ⟨next, err, he⟩ := honly _ (hrecent ▸ hconcluded) rfl _ _ rfl
  exact ⟨_, _, hconcluded, next, err, htopic ▸ he⟩

end Redelivery
