/-
  Redelivery.Proofs.Wiring.Schedules
  ──────────────────────────────────
  **The wiring of a simulation is an attempt.**

  A simulation wires an endpoint in one go: the administration answers what it
  answers, and others go on only while a stop waits for an end.  That is one of
  the ways in which an attempt can go, so what holds of every attempt holds of
  it.  Where the wait for an end is cut off, the attempt has not returned.
-/
import Redelivery.Proofs.Wiring.Attempts

namespace Redelivery

namespace Wiring

variable {w : Wiring} {s s' : System} {t u v : Attempt} {event : WiringEvent} {h : Handler}
  {context : Context}

/-! ## §1. One attempt after another. -/

/-- Some events lead from one attempt to the other. -/
def Reaches (w : Wiring) (t u : Attempt) : Prop := ∃ events, w.run t events = some u

theorem Reaches.refl (t : Attempt) : w.Reaches t t := ⟨[], rfl⟩

theorem Reaches.single (step : w.Step t event u) : w.Reaches t u :=
  ⟨[event], Option.bind_eq_some_iff.2 ⟨u, step.step?, rfl⟩⟩

theorem run_append {events later : List WiringEvent} (run : w.run t events = some u) :
    w.run t (events ++ later) = w.run u later := by
  induction events generalizing t with
  | nil =>
      cases run
      rfl
  | cons event rest ih =>
      obtain ⟨t', htaken, hrest⟩ := Option.bind_eq_some_iff.1 run
      show (w.step? t event).bind (fun t => w.run t (rest ++ later)) = _
      rw [htaken]
      exact ih hrest

theorem Reaches.trans (first : w.Reaches t u) (second : w.Reaches u v) : w.Reaches t v := by
  obtain ⟨events, run⟩ := first
  obtain ⟨later, onward⟩ := second
  exact ⟨events ++ later, by rw [run_append run, onward]⟩

/-- An inner action puts no chains in force. -/
theorem registers_of_isInner {a : Action} (inner : a.isInner = true) : a.registers = false := by
  cases a with
  | register context => cases inner
  | _ => rfl

/-- **Others go on.** -/
theorem reaches_of_path (path : System.Path (fun a => a.isInner = true) s s') (phase : WiringPhase) :
    w.Reaches ⟨s, phase⟩ ⟨s', phase⟩ := by
  induction path with
  | refl => exact .refl _
  | step before inner taken ih => exact ih.trans (.single (.other (registers_of_isInner inner) taken))

/-! ## §2. The administration. -/

/-- The phase after asking for a layout, of which `failures` calls had failed before. -/
def afterDescribe (h : Handler) (context : Context) (known : KnownLayouts) (name : String)
    (rest : List String) : Except BusError (Option Layout) → WiringPhase
  | .ok layout => afterLayouts h context (known ++ layout.toList.map (name, ·)) rest
  | .error e => .returned (.error (.reported (.bus e))) []

/-- **Asking for a layout, with retries.** -/
theorem reaches_describeRetrying (w : Wiring) (s : System) (h : Handler) (context : Context)
    (known : KnownLayouts) (b : Broker) (name : String) (rest : List String) (retries : Nat) :
    ∀ (a : Admin) (failures : Nat), failures + retries = Admin.maxRetries →
      w.Reaches ⟨s, .describing h context (name :: rest) known failures⟩
        ⟨s, afterDescribe h context known name rest (a.describeRetrying b name retries).1⟩ := by
  -- induction on the retries that are left
  induction retries with
  | zero =>
      intro a failures hcount
      unfold Admin.describeRetrying
      cases (a.describe b name).1 with
      | ok layout => exact .single (.described layout)
      | error e => exact .single (.undescribed e (by omega))
  | succ retries ih =>
      intro a failures hcount
      unfold Admin.describeRetrying
      obtain ⟨answer, a'⟩ := a.describe b name
      cases answer with
      | ok layout => exact .single (.described layout)
      | error e =>
          have hagain : w.Step ⟨s, .describing h context (name :: rest) known failures⟩
              (.describe name (.error e))
              ⟨s, .describing h context (name :: rest) known (failures + 1)⟩ :=
            .asksAgain e (by omega)
          exact (Reaches.single hagain).trans (ih a' (failures + 1) (by omega))

/-- The phase after asking for all layouts. -/
def afterDescribing (h : Handler) (context : Context) (known : KnownLayouts) :
    Except BusError KnownLayouts → WiringPhase
  | .ok more => .creating h context (known ++ more) 0
  | .error e => .returned (.error (.reported (.bus e))) []

/-- **Asking for the layouts of topics.** -/
theorem reaches_layouts (w : Wiring) (s : System) (h : Handler) (context : Context) (b : Broker)
    (names : List String) : ∀ (a : Admin) (known : KnownLayouts),
    w.Reaches ⟨s, afterLayouts h context known names⟩
      ⟨s, afterDescribing h context known (a.layouts b names).1⟩ := by
  induction names with
  | nil =>
      intro a known
      show w.Reaches ⟨s, .creating h context known 0⟩ ⟨s, .creating h context (known ++ []) 0⟩
      rw [List.append_nil]
      exact .refl _
  | cons name rest ih =>
      intro a known
      have hfirst := reaches_describeRetrying w s h context known b name rest Admin.maxRetries a 0
        (Nat.zero_add _)
      unfold Admin.layouts
      generalize a.describeRetrying b name Admin.maxRetries = p at hfirst ⊢
      obtain ⟨answer, a'⟩ := p
      cases answer with
      | error e => exact hfirst
      | ok layout =>
          have hrest := ih a' (known ++ layout.toList.map (name, ·))
          simp only
          generalize a'.layouts b rest = q at hrest ⊢
          obtain ⟨answer', a''⟩ := q
          cases answer' with
          | error e => exact hfirst.trans hrest
          | ok more =>
              show w.Reaches _ ⟨s, .creating h context (known ++ (_ ++ more)) 0⟩
              rw [← List.append_assoc]
              exact hfirst.trans hrest

/-- The phase after creating topics. -/
def afterCreate (h : Handler) (context : Context) : Except BusError Unit → WiringPhase
  | .ok () => .registering h context
  | .error e => .returned (.error (.reported (.bus e))) []

/-- **Creating topics, with retries.** -/
theorem reaches_createRetrying (w : Wiring) (h : Handler) (context : Context)
    (known : KnownLayouts) (retries : Nat) : ∀ (s : System) (a : Admin) (failures : Nat),
    failures + retries = Admin.maxRetries →
      let p := a.createRetrying s.broker
        (w.configuration.autoCreate.requests known context.topicNodes) retries
      w.Reaches ⟨s, .creating h context known failures⟩
        ⟨{ s with broker := p.2.2 }, afterCreate h context p.1⟩ := by
  generalize hrequests : w.configuration.autoCreate.requests known context.topicNodes = requests
  have hstep : ∀ {s : System} {failures : Nat} (broker : Broker), w.Reaches
      ⟨s, .creating h context known failures⟩ ⟨{ s with broker := broker }, .registering h context⟩ :=
    fun broker => .single (.created broker)
  -- induction on the retries that are left
  induction retries with
  | zero =>
      intro s a failures hcount
      unfold Admin.createRetrying
      generalize a.create s.broker requests = p
      obtain ⟨answer, a', broker⟩ := p
      cases answer with
      | ok _ => exact hstep broker
      | error e => exact .single (.uncreated broker e (by omega))
  | succ retries ih =>
      intro s a failures hcount
      unfold Admin.createRetrying
      generalize a.create s.broker requests = p
      obtain ⟨answer, a', broker⟩ := p
      cases answer with
      | ok _ => exact hstep broker
      | error e =>
          have hagain : w.Reaches ⟨s, .creating h context known failures⟩
              ⟨{ s with broker := broker }, .creating h context known (failures + 1)⟩ :=
            .single (.triesAgain broker e (by omega))
          exact hagain.trans (ih { s with broker := broker } a' (failures + 1) (by omega))

/-- **Provisioning.** -/
theorem reaches_provision (w : Wiring) (p : Platform) (h : Handler) (context : Context) :
    let provisioned := p.provision w.configuration.autoCreate context.topicNodes
    w.Reaches ⟨p.toSystem, afterLayouts h context []
        ((context.topicNodes.filter Destination.isMain).map Destination.source)⟩
      ⟨provisioned.2.toSystem, afterCreate h context provisioned.1⟩ := by
  have hlayouts := reaches_layouts w p.toSystem h context p.broker
    ((context.topicNodes.filter Destination.isMain).map Destination.source) p.admin []
  unfold Platform.provision
  simp only
  generalize p.admin.layouts p.broker
    ((context.topicNodes.filter Destination.isMain).map Destination.source) = q at hlayouts ⊢
  obtain ⟨answer, a⟩ := q
  cases answer with
  | error e => exact hlayouts
  | ok known =>
      have hcreate := reaches_createRetrying w h context known Admin.maxRetries p.toSystem a 0
        (Nat.zero_add _)
      exact hlayouts.trans hcreate

/-- The phase after creating the missing topics, and putting the chains in force. -/
def afterDeclare (w : Wiring) (h : Handler) (context : Context) :
    Except (Interruption Error) (List Destination) → WiringPhase
  | .ok _ => .starting (w.listeners h context) []
  | .error interruption => .returned (.error interruption) []

/-- **Declaring the topology.** -/
theorem reaches_declareTopology {p : Platform}
    (hhandler : w.application.deadLetterHandler w.configuration = .ok h)
    (hbuild : w.configuration.buildTopology w.topics w.application.draws = .ok context) :
    let declared := p.declareTopology w.configuration w.topics w.application.draws
    w.Reaches (w.opening p.toSystem) ⟨declared.2.toSystem, w.afterDeclare h context declared.1⟩ := by
  unfold opening Platform.declareTopology
  rw [hhandler, hbuild]
  simp only
  by_cases henabled : w.configuration.autoCreate.enabled = true
  · rw [if_pos henabled, if_pos henabled]
    have hprovisioned := reaches_provision w p h context
    generalize p.provision w.configuration.autoCreate context.topicNodes = q at hprovisioned ⊢
    obtain ⟨answer, p'⟩ := q
    cases answer with
    | error e => exact hprovisioned
    | ok _ => exact hprovisioned.trans (.single .registered)
  · rw [if_neg henabled, if_neg henabled]
    exact .single .registered

/-! ## §3. The consumers. -/

variable {started : List Nat} {e : Error}

/-- A step of a stop that is possible. -/
theorem reaches_take {sim : Simulation} {a : Action} {rest : List Action}
    (possible : ∃ s', sim.toSystem.step? a = some s') :
    w.Reaches ⟨sim.toSystem, .stopping (a :: rest) started e⟩
      ⟨(sim.take a).toSystem, .stopping rest started e⟩ := by
  obtain ⟨s', taken⟩ := possible
  unfold Simulation.take
  rw [taken]
  exact .single (.stopped taken)

/-- **Stopping a consumer**, unless its handle is gone or the wait for its end is cut off. -/
theorem reaches_stop {i : Nat} (sim : Simulation) (here : i < sim.consumers.length)
    (rest : List Action) : ∃ todo,
      w.Reaches ⟨sim.toSystem, .stopping (stopActions i ++ rest) started e⟩
        ⟨(sim.stop i).2.toSystem, .stopping todo started e⟩ := by
  have hconsumer : sim.consumers[i]? = some sim.consumers[i] := List.getElem?_eq_getElem here
  have htoken : sim.toSystem.step? (.cancelToken i) = some (sim.toSystem.setConsumer i
      { sim.consumers[i] with stopping := true }) := by
    show sim.toSystem.cancelToken? i = _
    unfold System.cancelToken?
    rw [hconsumer]
    rfl
  have howner : ∃ s', (sim.take (.cancelToken i)).toSystem.step? (.cancelOwner i) = some s' := by
    unfold Simulation.take
    rw [htoken]
    refine ⟨_, Option.bind_eq_some_iff.2 ⟨{ sim.consumers[i] with stopping := true }, ?_, rfl⟩⟩
    show (sim.consumers.set i _)[i]? = _
    rw [List.getElem?_set_self here]
  have htold : w.Reaches ⟨sim.toSystem, .stopping (stopActions i ++ rest) started e⟩
      ⟨((sim.take (.cancelToken i)).take (.cancelOwner i)).toSystem,
        .stopping (.takeHandle i :: .collect i :: rest) started e⟩ :=
    (reaches_take ⟨_, htoken⟩).trans (reaches_take howner)
  have hstops := sim.stops i
  generalize (sim.take (.cancelToken i)).take (.cancelOwner i) = told at htold hstops
  generalize (sim.stop i).2 = stopped at hstops ⊢
  have hwaited : ∀ {system : System}, told.toSystem.step? (.takeHandle i) = some system →
      w.Reaches ⟨sim.toSystem, .stopping (stopActions i ++ rest) started e⟩
        ⟨((told.setSystem system).awaitWithin i Simulation.patience).toSystem,
          .stopping (.collect i :: rest) started e⟩ :=
    fun taken => (htold.trans (.single (.stopped taken))).trans
      (reaches_of_path (Simulation.leads_awaitWithin i Simulation.patience (told.setSystem _)) _)
  cases hstops with
  | gone free => exact ⟨_, htold⟩
  | cutOff taken => exact ⟨_, hwaited taken⟩
  | awaited taken collected => exact ⟨rest, (hwaited taken).trans (.single (.stopped collected))⟩

/-- **Stopping several consumers**; where the wait for an end is cut off, the others are stopped all
the same. -/
theorem reaches_stopAll (ids : List Nat) : ∀ sim : Simulation,
    (∀ i ∈ ids, i < sim.consumers.length) → ∃ todo,
      w.Reaches ⟨sim.toSystem, .stopping (ids.flatMap stopActions) started e⟩
        ⟨(sim.stopAll ids).2.toSystem, .stopping todo started e⟩ := by
  induction ids with
  | nil => exact fun sim _ => ⟨[], .refl _⟩
  | cons i rest ih =>
      intro sim here
      have hlength := (Simulation.leads_stop sim i).length_eq
      rw [Simulation.stopAll_cons, List.flatMap_cons]
      obtain ⟨todo, hstop⟩ := reaches_stop (w := w) (e := e) sim
        (here i List.mem_cons_self) (rest.flatMap stopActions)
      by_cases hdone : todo = rest.flatMap stopActions
      · subst hdone
        obtain ⟨todo, hrest⟩ := ih (sim.stop i).2 fun j hj => by
          rw [hlength]
          exact here j (List.mem_cons_of_mem i hj)
        exact ⟨todo, hstop.trans hrest⟩
      · exact ⟨_, hstop.trans (reaches_of_path (Simulation.leads_stopAll rest (sim.stop i).2) _)⟩

/-- The wiring has returned the answer, or the wait for an end was cut off. -/
def Returns (phase : WiringPhase) : Except (Interruption Error) (List Nat) → Prop
  | .ok ids => phase = .returned (.ok ids) ids
  | .error interruption => ∃ started, phase = .returned (.error interruption) started
      ∨ ∃ a rest e, interruption = .reported e ∧ phase = .stopping (a :: rest) started e

/-- **Starting the consumers**, and stopping them again after a refusal. -/
theorem reaches_startAll (listeners : List (Listener × Handler)) :
    ∀ (sim : Simulation) (started : List Nat), (∀ i ∈ started, i < sim.consumers.length) →
      let p := sim.startAll w.group started listeners
      ∃ phase, w.Reaches ⟨sim.toSystem, .starting listeners started⟩ ⟨p.2.toSystem, phase⟩
        ∧ Returns phase (p.1.mapError .reported) := by
  -- induction on the listeners that are still to be started
  induction listeners with
  | nil => exact fun sim started _ => ⟨_, .single .wired, rfl⟩
  | cons first rest ih =>
      obtain ⟨l, handler⟩ := first
      intro sim started here
      unfold Simulation.startAll
      cases hstart : sim.toSystem.start l handler w.group with
      | ok system =>
          have hsystem := System.of_start hstart
          have hhired : w.Reaches ⟨sim.toSystem, .starting ((l, handler) :: rest) started⟩
              ⟨system, .starting rest (started ++ [sim.consumers.length])⟩ := by
            rw [hsystem]
            exact .single (.hired _ _)
          have hlength : (sim.setSystem system).consumers.length = sim.consumers.length + 1 := by
            show system.consumers.length = _
            rw [hsystem, List.length_append]
            rfl
          obtain ⟨phase, hreaches, hreturns⟩ := ih (sim.setSystem system)
            (started ++ [sim.consumers.length]) fun i hi => by
              rw [hlength]
              rcases List.mem_append.1 hi with hold | hnew
              · exact Nat.lt_succ_of_lt (here i hold)
              · rw [List.mem_singleton.1 hnew]
                exact Nat.lt_succ_self _
          exact ⟨phase, hhired.trans hreaches, hreturns⟩
      | error err =>
          have hrefused : w.Reaches ⟨sim.toSystem, .starting ((l, handler) :: rest) started⟩
              ⟨sim.toSystem, .stopping (started.flatMap stopActions) started (.bus err)⟩ :=
            .single (.refused sim.broker err)
          obtain ⟨todo, hstopped⟩ : ∃ todo, w.Reaches
              ⟨sim.toSystem, .stopping (started.flatMap stopActions) started (.bus err)⟩
              ⟨(sim.stopAll started).2.toSystem, .stopping todo started (.bus err)⟩ :=
            reaches_stopAll started sim here
          cases todo with
          | nil =>
              exact ⟨_, (hrefused.trans hstopped).trans (.single .gaveUp), started, Or.inl rfl⟩
          | cons a todo =>
              exact ⟨_, hrefused.trans hstopped, started, Or.inr ⟨a, todo, _, rfl, rfl⟩⟩

/-- **The wiring of a simulation is an attempt**, which has returned unless the wait for an end was
cut off. -/
theorem reaches_configureWith (w : Wiring) (sim : Simulation) :
    let p := sim.configureWith w.application w.configuration w.topics w.handler
    ∃ phase, w.Reaches (w.opening sim.toSystem) ⟨p.2.toSystem, phase⟩
      ∧ Returns phase (p.1.map Endpoint.consumers) := by
  unfold Simulation.configureWith
  cases hhandler : w.application.deadLetterHandler w.configuration with
  | error fault =>
      refine ⟨.returned (.error (.reported (.configuration fault))) [], ?_, [], Or.inl rfl⟩
      unfold opening
      rw [hhandler]
      exact .refl _
  | ok h =>
      simp only
      cases hbuild : w.configuration.buildTopology w.topics w.application.draws with
      | error interruption =>
          have hdeclared : sim.toPlatform.declareTopology w.configuration w.topics
              w.application.draws
                = (.error (interruption.map .configuration), sim.toPlatform) := by
            unfold Platform.declareTopology
            rw [hbuild]
          rw [hdeclared]
          refine ⟨.returned (.error (interruption.map .configuration)) [], ?_, [], Or.inl rfl⟩
          unfold opening
          rw [hhandler, hbuild]
          exact .refl _
      | ok context =>
          have hopened := reaches_declareTopology (p := sim.toPlatform) hhandler hbuild
          cases hdeclared : sim.toPlatform.declareTopology w.configuration w.topics
              w.application.draws with
          | mk answer platform =>
              rw [hdeclared] at hopened
              cases answer with
              | error interruption => exact ⟨_, hopened, [], Or.inl rfl⟩
              | ok nodes =>
                  obtain ⟨context', hbuild', rfl, _⟩ := Platform.of_declareTopology hdeclared
                  rw [hbuild] at hbuild'
                  cases hbuild'
                  have hstarted := reaches_startAll (w := w) (w.listeners h context)
                    { sim with toPlatform := platform } [] fun i hi => absurd hi List.not_mem_nil
                  unfold group listeners at hstarted
                  simp only at hstarted ⊢
                  generalize Simulation.startAll _ _ _ _ = q at hstarted ⊢
                  obtain ⟨phase, hreaches, hreturns⟩ := hstarted
                  obtain ⟨answer, sim'⟩ := q
                  cases answer with
                  | error e => exact ⟨phase, hopened.trans hreaches, hreturns⟩
                  | ok ids => exact ⟨phase, hopened.trans hreaches, hreturns⟩

/-! ## §4. Wirings that fail. -/

/-- **A wiring that fails ends its consumers, and leaves its chains in force if it was refused a
subscription.**

So the chains in force are what they were unless a subscription was refused and one of the chains of
the wiring was not in force before.  The wiring of a simulation is such an attempt, unless the wait
for an end was cut off, and leaves in force what such an attempt leaves. -/
theorem refused_wiring_leaves_its_chains (w : Wiring) :
    (∀ s events t e started, w.run (w.opening s) events = some t →
      t.phase = .returned (.error e) started →
      (∀ i ∈ started, ∃ c, t.system.consumers[i]? = some c ∧ c.phase.isFinal = true)
      ∧ ((∀ event ∈ events, event.isRefusal = false) →
          started = [] ∧ t.system.registry = s.registry)
      ∧ ((∃ event ∈ events, event.isRefusal = true) → w.LeavesChains s t.system))
    ∧ ∀ (sim sim' : Simulation) e,
      sim.configureWith w.application w.configuration w.topics w.handler = (.error e, sim') →
      ∃ events t, w.run (w.opening sim.toSystem) events = some t ∧ t.system = sim'.toSystem
        ∧ Returns t.phase (.error e)
        ∧ ((∀ event ∈ events, event.isRefusal = false) → sim'.registry = sim.registry)
        ∧ ((∃ event ∈ events, event.isRefusal = true) →
            w.LeavesChains sim.toSystem sim'.toSystem) := by
  refine ⟨fun s events t e started run failed => ?_, fun sim sim' e failed => ?_⟩
  · have hlaw := (w.law_opening s).run run
    rw [List.nil_append] at hlaw
    obtain ⟨hregistry, hleft⟩ := hlaw.left (Or.inl ⟨e, started, failed⟩)
    unfold Law at hlaw
    rw [failed] at hlaw
    obtain ⟨hended, hcases⟩ := hlaw
    refine ⟨hended, fun hunrefused => ⟨?_, hregistry hunrefused⟩, hleft⟩
    rcases hcases with ⟨_, _, hstarted⟩ | ⟨hrefused, _⟩
    · exact hstarted
    · exact absurd hunrefused hrefused
  · obtain ⟨phase, ⟨events, hrun⟩, hreturns⟩ := reaches_configureWith w sim
    have hlaw := (w.law_opening sim.toSystem).run hrun
    rw [failed] at hlaw hrun hreturns
    rw [List.nil_append] at hlaw
    refine ⟨events, _, hrun, rfl, hreturns, hlaw.left ?_⟩
    obtain ⟨started, hreturned | ⟨a, rest, err, _, hstopping⟩⟩ := hreturns
    · exact Or.inl ⟨e, started, hreturned⟩
    · exact Or.inr ⟨a :: rest, started, err, hstopping⟩

end Wiring

namespace Orders

/-- The topic is wired a second time, with another retry topic. -/
def rewiring : Wiring where
  application := application
  configuration := { configuration with retrySuffix := "-again" }
  topics := ["orders"]
  handler := "main"

/-- The topics of the second wiring. -/
def requests : List TopicRequest := [⟨"orders", {}⟩, ⟨"orders-again", {}⟩, ⟨"orders-dlt", {}⟩]

/-- Its topics are created and its chain is put in force; the main topic gets another consumer, and
the retry topic is refused.  The new consumer notices that it was told to stop. -/
def refusal : List WiringEvent :=
  let created := ((wired ["orders"]).broker.createIfAbsent requests).2
  let (number, subscribed) := created.subscribe "orders" "retrytopic"
  [.describe "orders" (.ok (some {})), .create requests created (.ok ()), .register,
    .subscribe "orders" "retrytopic" subscribed (.ok (.subscription number)),
    .subscribe "orders-again" "retrytopic" subscribed (.error (.subscribe "refused orders-again")),
    .stop, .stop, .stop, .other (.notice 3), .stop, .answer]

/-- The second wiring when it has returned. -/
def refused : Attempt :=
  (rewiring.run (rewiring.opening (wired ["orders"]).toSystem) refusal).getD
    ⟨{}, .returned (.ok []) []⟩

/-- The first endpoint, where nobody can subscribe to the retry topic of the second wiring. -/
def guarded : Simulation := { wired ["orders"] with refused := ["orders-again"] }

/-- What the second wiring comes to there. -/
def rewired : Except (Interruption Error) Endpoint × Simulation :=
  guarded.configureWith rewiring.application rewiring.configuration rewiring.topics rewiring.handler

/-- The names of the nodes in force for the topic. -/
def nodesInForce (s : System) : Option (List String) :=
  (s.registry.chain? "orders").map fun chain => chain.destinations.map Destination.name

end Orders

open Orders in
/-- The new consumer has ended, and the first endpoint goes on with the chain of the second; so it
does where a simulation is wired. -/
theorem Wiring.refused_wiring_leaves_its_chains_of_rewiring :
    refused.phase = .returned (.error (.reported (.bus (.subscribe "refused orders-again")))) [3]
      ∧ (∃ c, refused.system.consumers[3]? = some c ∧ c.phase.isFinal = true)
      ∧ nodesInForce (wired ["orders"]).toSystem = some ["orders", "orders-retry", "orders-dlt"]
      ∧ nodesInForce refused.system = some ["orders", "orders-again", "orders-dlt"]
      ∧ (¬∀ source, refused.system.registry.chain? source
        = (wired ["orders"]).toSystem.registry.chain? source)
      ∧ ∃ e, rewired.1 = .error e ∧ rewiring.LeavesChains guarded.toSystem rewired.2.toSystem := by
  have hrun : rewiring.run (rewiring.opening (wired ["orders"]).toSystem) refusal = some refused := by
    decide +kernel
  have hfailed : refused.phase
      = .returned (.error (.reported (.bus (.subscribe "refused orders-again")))) [3] := by
    decide +kernel
  have hlaw := (refused_wiring_leaves_its_chains rewiring).1 _ _ _ _ _ hrun hfailed
  have hbefore : nodesInForce (wired ["orders"]).toSystem
      = some ["orders", "orders-retry", "orders-dlt"] := by decide +kernel
  have hafter : nodesInForce refused.system = some ["orders", "orders-again", "orders-dlt"] := by
    decide +kernel
  refine ⟨hfailed, hlaw.1 3 (List.mem_singleton_self 3), hbefore, hafter, fun hsame => ?_, ?_⟩
  · unfold nodesInForce at hbefore hafter
    rw [hsame, hbefore] at hafter
    revert hafter
    decide
  · have hrefused : rewired.1
        = .error (.reported (.bus (.subscribe "refused orders-again"))) := by decide +kernel
    obtain ⟨events, t, _, _, _, hsame, hleft⟩ := (refused_wiring_leaves_its_chains rewiring).2
      guarded rewired.2 _ (Prod.ext hrefused rfl)
    have hthere : nodesInForce rewired.2.toSystem = some ["orders", "orders-again", "orders-dlt"] := by
      decide +kernel
    refine ⟨_, hrefused, hleft ?_⟩
    -- the chain in force is another one, so a subscription was refused
    by_contra hnone
    have hregistry : rewired.2.registry = guarded.registry :=
      hsame fun event hevent => Bool.not_eq_true _ ▸ fun hrefusal => hnone ⟨event, hevent, hrefusal⟩
    unfold nodesInForce at hbefore hthere
    rw [hregistry] at hthere
    have hguarded : guarded.registry = (wired ["orders"]).registry := rfl
    rw [hguarded, hbefore] at hthere
    revert hthere
    decide

end Redelivery
