/-
  Redelivery.Proofs.Wiring.Attempts
  ─────────────────────────────────
  **What a wiring leaves behind that fails.**

  An attempt is a wiring on its way: it asks the administration for layouts
  and for topics, puts its chains in force, subscribes its consumers one by
  one, and after a refusal stops those that it has.  What it is answered is
  arbitrary, and between its steps everybody else goes on.

      describe* → create → register → subscribe* → return
                                          └── refused ──▶ stop* → return

  The consumers of a wiring that fails have ended when it returns.  The chains
  are not undone: after a refusal those of the wiring stay in force.
-/
import Redelivery.Proofs.System.Stopping
import Redelivery.Proofs.Topology.Registration

namespace Redelivery

/-- Whether the action puts chains in force. -/
def Action.registers : Action → Bool
  | .register _ => true
  | _ => false

/-- A handler that is to be wired to some topics with a configuration. -/
structure Wiring where
  application : Application
  configuration : Configuration
  topics : List String
  handler : String

/-- How far a wiring has come. -/
inductive WiringPhase where
  /-- The layouts of main topics are asked for; one call has failed so many times. -/
  | describing (deadLetters : Handler) (context : Context) (todo : List String)
      (known : KnownLayouts) (failures : Nat)
  /-- The topics are to be created; the call has failed so many times. -/
  | creating (deadLetters : Handler) (context : Context) (known : KnownLayouts) (failures : Nat)
  /-- The chains are to be put in force. -/
  | registering (deadLetters : Handler) (context : Context)
  /-- Consumers are to be started. -/
  | starting (todo : List (Listener × Handler)) (started : List Nat)
  /-- A consumer was refused, and those that were started are stopped. -/
  | stopping (todo : List Action) (started : List Nat) (e : Error)
  | returned (answer : Except (Interruption Error) (List Nat)) (started : List Nat)
  deriving DecidableEq, Repr

/-- What a wiring does, with what it is answered, and what others do. -/
inductive WiringEvent where
  | describe (name : String) (answer : Except BusError (Option Layout))
  /-- The administration may have done anything to the broker. -/
  | create (requests : List TopicRequest) (broker : Broker) (answer : Except BusError Unit)
  | register
  /-- So may whoever gives out sources. -/
  | subscribe (topic group : String) (broker : Broker) (answer : Except BusError Source)
  /-- The next step of a stop. -/
  | stop
  | answer
  | other (a : Action)
  deriving DecidableEq, Repr

/-- Whether it is a subscription that is refused. -/
def WiringEvent.isRefusal : WiringEvent → Bool
  | .subscribe _ _ _ (.error _) => true
  | _ => false

/-- A wiring on its way, in a system. -/
structure Attempt where
  system : System
  phase : WiringPhase
  deriving DecidableEq, Repr

namespace Wiring

/-! ## §1. The steps of a wiring. -/

/-- The group of the consumers. -/
def group (w : Wiring) : String := w.configuration.group.getD w.application.group

/-- The listeners of the nodes that have a topic, and their handlers. -/
def listeners (w : Wiring) (deadLetters : Handler) (context : Context) : List (Listener × Handler) :=
  context.topicNodes.map fun node =>
    (w.application.listenerOf w.configuration node,
      if node.isDeadLetter then deadLetters else .named w.handler)

/-- Ask for layouts as long as there are some to ask for. -/
def afterLayouts (deadLetters : Handler) (context : Context) (known : KnownLayouts) :
    List String → WiringPhase
  | [] => .creating deadLetters context known 0
  | todo => .describing deadLetters context todo known 0

/-- Nothing happens between the call, the handlers that are looked up and the chains that are
built. -/
def opening (w : Wiring) (s : System) : Attempt :=
  ⟨s, match w.application.deadLetterHandler w.configuration with
    | .error fault => .returned (.error (.reported (.configuration fault))) []
    | .ok deadLetters =>
        match w.configuration.buildTopology w.topics w.application.draws with
        | .error interruption => .returned (.error (interruption.map .configuration)) []
        | .ok context =>
            if w.configuration.autoCreate.enabled then
              afterLayouts deadLetters context []
                ((context.topicNodes.filter Destination.isMain).map Destination.source)
            else .registering deadLetters context⟩

/-- The four steps of a stop.  Nobody else has the handles of consumers that are being started. -/
def stopActions (consumer : Nat) : List Action :=
  [.cancelToken consumer, .cancelOwner consumer, .takeHandle consumer, .collect consumer]

/-- What an event does, where it is possible. -/
def step? (w : Wiring) (t : Attempt) (event : WiringEvent) : Option Attempt :=
  match t.phase, event with
  -- Nobody else puts chains in force while the wiring has the registry.
  | phase, .other a => if a.registers then none else (t.system.step? a).map fun s => ⟨s, phase⟩
  | .describing deadLetters context (name :: rest) known failures, .describe asked answer =>
      if asked ≠ name then none
      else match answer with
        | .ok layout => some ⟨t.system,
            afterLayouts deadLetters context (known ++ layout.toList.map (name, ·)) rest⟩
        | .error e => some ⟨t.system,
            if failures < Admin.maxRetries then
              .describing deadLetters context (name :: rest) known (failures + 1)
            else .returned (.error (.reported (.bus e))) []⟩
  | .creating deadLetters context known failures, .create requests broker answer =>
      if requests ≠ w.configuration.autoCreate.requests known context.topicNodes then none
      else match answer with
        | .ok () => some ⟨{ t.system with broker := broker }, .registering deadLetters context⟩
        | .error e => some ⟨{ t.system with broker := broker },
            if failures < Admin.maxRetries then .creating deadLetters context known (failures + 1)
            else .returned (.error (.reported (.bus e))) []⟩
  | .registering deadLetters context, .register => some
      ⟨{ t.system with registry := t.system.registry.register context },
        .starting (w.listeners deadLetters context) []⟩
  | .starting ((l, h) :: rest) started, .subscribe topic group broker answer =>
      if topic ≠ l.node.name ∨ group ≠ w.group then none
      else match answer with
        | .ok source => some
            ⟨{ t.system with
                broker := broker
                consumers := t.system.consumers
                  ++ [⟨l, h, group, source, .polling t.system.now, false, .kept⟩] },
              .starting rest (started ++ [t.system.consumers.length])⟩
        | .error e => some ⟨{ t.system with broker := broker },
            .stopping (started.flatMap stopActions) started (.bus e)⟩
  | .starting [] started, .answer => some ⟨t.system, .returned (.ok started) started⟩
  | .stopping (a :: rest) started e, .stop =>
      (t.system.step? a).map fun s => ⟨s, .stopping rest started e⟩
  | .stopping [] started e, .answer => some ⟨t.system, .returned (.error (.reported e)) started⟩
  | _, _ => none

/-- Events one after the other; none if one of them is not possible. -/
def run (w : Wiring) (t : Attempt) : List WiringEvent → Option Attempt
  | [] => some t
  | event :: rest => (w.step? t event).bind fun t => w.run t rest

/-- `w.Step t event u`: what each event does. -/
inductive Step (w : Wiring) : Attempt → WiringEvent → Attempt → Prop where
  | other {s s' : System} {phase : WiringPhase} {a : Action} (plain : a.registers = false)
      (taken : s.step? a = some s') : Step w ⟨s, phase⟩ (.other a) ⟨s', phase⟩
  | described {s : System} {h : Handler} {context : Context} {name : String} {rest : List String}
      {known : KnownLayouts} {failures : Nat} (layout : Option Layout) :
      Step w ⟨s, .describing h context (name :: rest) known failures⟩ (.describe name (.ok layout))
        ⟨s, afterLayouts h context (known ++ layout.toList.map (name, ·)) rest⟩
  /-- A layout is asked for again. -/
  | asksAgain {s : System} {h : Handler} {context : Context} {name : String} {rest : List String}
      {known : KnownLayouts} {failures : Nat} (e : BusError) (more : failures < Admin.maxRetries) :
      Step w ⟨s, .describing h context (name :: rest) known failures⟩ (.describe name (.error e))
        ⟨s, .describing h context (name :: rest) known (failures + 1)⟩
  | undescribed {s : System} {h : Handler} {context : Context} {name : String} {rest : List String}
      {known : KnownLayouts} {failures : Nat} (e : BusError) (last : ¬failures < Admin.maxRetries) :
      Step w ⟨s, .describing h context (name :: rest) known failures⟩ (.describe name (.error e))
        ⟨s, .returned (.error (.reported (.bus e))) []⟩
  | created {s : System} {h : Handler} {context : Context} {known : KnownLayouts} {failures : Nat}
      (broker : Broker) :
      Step w ⟨s, .creating h context known failures⟩
        (.create (w.configuration.autoCreate.requests known context.topicNodes) broker (.ok ()))
        ⟨{ s with broker := broker }, .registering h context⟩
  /-- The topics are to be created again. -/
  | triesAgain {s : System} {h : Handler} {context : Context} {known : KnownLayouts} {failures : Nat}
      (broker : Broker) (e : BusError)
      (more : failures < Admin.maxRetries) :
      Step w ⟨s, .creating h context known failures⟩
        (.create (w.configuration.autoCreate.requests known context.topicNodes) broker (.error e))
        ⟨{ s with broker := broker }, .creating h context known (failures + 1)⟩
  | uncreated {s : System} {h : Handler} {context : Context} {known : KnownLayouts} {failures : Nat}
      (broker : Broker) (e : BusError)
      (last : ¬failures < Admin.maxRetries) :
      Step w ⟨s, .creating h context known failures⟩
        (.create (w.configuration.autoCreate.requests known context.topicNodes) broker (.error e))
        ⟨{ s with broker := broker }, .returned (.error (.reported (.bus e))) []⟩
  | registered {s : System} {h : Handler} {context : Context} :
      Step w ⟨s, .registering h context⟩ .register
        ⟨{ s with registry := s.registry.register context }, .starting (w.listeners h context) []⟩
  | hired {s : System} {l : Listener} {h : Handler} {rest : List (Listener × Handler)}
      {started : List Nat} (broker : Broker) (source : Source) :
      Step w ⟨s, .starting ((l, h) :: rest) started⟩
        (.subscribe l.node.name w.group broker (.ok source))
        ⟨{ s with
            broker := broker
            consumers := s.consumers ++ [⟨l, h, w.group, source, .polling s.now, false, .kept⟩] },
          .starting rest (started ++ [s.consumers.length])⟩
  | refused {s : System} {l : Listener} {h : Handler} {rest : List (Listener × Handler)}
      {started : List Nat} (broker : Broker) (e : BusError) :
      Step w ⟨s, .starting ((l, h) :: rest) started⟩
        (.subscribe l.node.name w.group broker (.error e))
        ⟨{ s with broker := broker }, .stopping (started.flatMap stopActions) started (.bus e)⟩
  | wired {s : System} {started : List Nat} :
      Step w ⟨s, .starting [] started⟩ .answer ⟨s, .returned (.ok started) started⟩
  | stopped {s s' : System} {a : Action} {rest : List Action} {started : List Nat} {e : Error}
      (taken : s.step? a = some s') :
      Step w ⟨s, .stopping (a :: rest) started e⟩ .stop ⟨s', .stopping rest started e⟩
  | gaveUp {s : System} {started : List Nat} {e : Error} :
      Step w ⟨s, .stopping [] started e⟩ .answer ⟨s, .returned (.error (.reported e)) started⟩

variable {w : Wiring} {s s₀ s' : System} {t u : Attempt} {event : WiringEvent}
  {events past : List WiringEvent} {phase : WiringPhase}

/-- **Every event is one of these.** -/
theorem Step.of_step? (h : w.step? t event = some u) : w.Step t event u := by
  obtain ⟨s, phase⟩ := t
  unfold step? at h
  split at h
  · rename_i phase' a
    split at h
    · cases h
    · rename_i hplain
      obtain ⟨s', taken, rfl⟩ := Option.map_eq_some_iff.1 h
      exact .other (Bool.not_eq_true _ ▸ hplain) taken
  · rename_i hphase
    cases hphase
    split at h
    · cases h
    · rename_i hname
      rw [not_not] at hname
      subst hname
      split at h
      · cases h
        exact .described _
      · cases h
        split
        · rename_i more
          exact .asksAgain _ more
        · rename_i last
          exact .undescribed _ last
  · rename_i hphase
    cases hphase
    split at h
    · cases h
    · rename_i hrequests
      rw [not_not] at hrequests
      subst hrequests
      split at h
      · cases h
        exact .created _
      · cases h
        split
        · rename_i more
          exact .triesAgain _ _ more
        · rename_i last
          exact .uncreated _ _ last
  · rename_i hphase
    cases hphase
    cases h
    exact .registered
  · rename_i hphase
    cases hphase
    split at h
    · cases h
    · rename_i hasked
      rw [not_or, not_not, not_not] at hasked
      obtain ⟨rfl, rfl⟩ := hasked
      split at h
      · cases h
        exact .hired _ _
      · cases h
        exact .refused _ _
  · rename_i hphase
    cases hphase
    cases h
    exact .wired
  · rename_i hphase
    cases hphase
    obtain ⟨s', taken, rfl⟩ := Option.map_eq_some_iff.1 h
    exact .stopped taken
  · rename_i hphase
    cases hphase
    cases h
    exact .gaveUp
  · cases h

/-- **And each of these is possible.** -/
theorem Step.step? (h : w.Step t event u) : w.step? t event = some u := by
  cases h with
  | other plain taken =>
      simp only [Wiring.step?]
      rw [if_neg (by rw [plain]; exact Bool.false_ne_true), taken]
      rfl
  | described layout => simp only [Wiring.step?, ne_eq, not_true, if_false]
  | asksAgain e more => simp only [Wiring.step?, ne_eq, not_true, if_false, if_pos more]
  | undescribed e last => simp only [Wiring.step?, ne_eq, not_true, if_false, if_neg last]
  | created broker => simp only [Wiring.step?, ne_eq, not_true, if_false]
  | triesAgain broker e more =>
      simp only [Wiring.step?, ne_eq, not_true, if_false, if_pos more]
  | uncreated broker e last =>
      simp only [Wiring.step?, ne_eq, not_true, if_false, if_neg last]
  | registered => rfl
  | hired broker source => simp only [Wiring.step?, ne_eq, not_true, or_self, if_false]
  | refused broker e => simp only [Wiring.step?, ne_eq, not_true, or_self, if_false]
  | wired => rfl
  | stopped taken =>
      simp only [Wiring.step?]
      rw [taken]
      rfl
  | gaveUp => rfl

/-! ## §2. What holds on the way. -/

/-- No subscription was refused so far. -/
def Unrefused (past : List WiringEvent) : Prop := ∀ event ∈ past, event.isRefusal = false

theorem unrefused_concat :
    Unrefused (past ++ [event]) ↔ Unrefused past ∧ event.isRefusal = false := by
  unfold Unrefused
  rw [List.forall_mem_append, List.forall_mem_singleton]

/-- The chains of the wiring are in force. -/
def InForce (w : Wiring) (s₀ s : System) : Prop :=
  ∃ context, w.configuration.buildTopology w.topics w.application.draws = .ok context
    ∧ s.registry = s₀.registry.register context

/-- Consumer number `i` has ended. -/
def Ended (s : System) (i : Nat) : Prop := ∃ c, s.consumers[i]? = some c ∧ c.phase.isFinal = true

/-- A consumer that has ended stays ended. -/
theorem Ended.step {i : Nat} {a : Action} (h : Ended s i) (taken : s.step? a = some s') :
    Ended s' i := by
  obtain ⟨c, here, ended⟩ := h
  exact (System.Step.of_step taken).isFinal here ended

/-- An action that puts no chains in force leaves them alone. -/
theorem registry_of_plain {a : Action} (plain : a.registers = false) (taken : s.step? a = some s') :
    s'.registry = s.registry := by
  rcases (System.Step.of_step taken).registry with hsame | ⟨context, rfl, _⟩
  · exact hsame
  · cases plain

/-- To stop a consumer registers nothing. -/
theorem registers_of_mem_stopActions {a : Action} {i : Nat} (h : a ∈ stopActions i) :
    a.registers = false := by
  simp only [stopActions, List.mem_cons, List.not_mem_nil, or_false] at h
  rcases h with rfl | rfl | rfl | rfl
  · rfl
  · rfl
  · rfl
  · rfl

/-- **The law of an attempt**, by its phase: which chains are in force, whether a subscription was
refused, and which of the consumers have ended. -/
def Law (w : Wiring) (s₀ : System) (past : List WiringEvent) (t : Attempt) : Prop :=
  match t.phase with
  | .describing _ context _ _ _ | .creating _ context _ _ | .registering _ context =>
      w.configuration.buildTopology w.topics w.application.draws = .ok context
        ∧ Unrefused past ∧ t.system.registry = s₀.registry
  | .starting _ _ => w.InForce s₀ t.system ∧ Unrefused past
  | .stopping todo started _ => w.InForce s₀ t.system ∧ ¬Unrefused past
      ∧ (∀ a ∈ todo, a.registers = false)
      ∧ ∀ i ∈ started, .collect i ∈ todo ∨ Ended t.system i
  | .returned (.ok _) _ => True
  | .returned (.error _) started => (∀ i ∈ started, Ended t.system i)
      ∧ ((Unrefused past ∧ t.system.registry = s₀.registry ∧ started = [])
        ∨ (¬Unrefused past ∧ w.InForce s₀ t.system))

/-- The law holds before anything was done. -/
theorem law_opening (w : Wiring) (s : System) : w.Law s [] (w.opening s) := by
  have hnothing : Unrefused [] := fun event hevent => by cases hevent
  unfold opening
  cases w.application.deadLetterHandler w.configuration with
  | error fault => exact ⟨fun i hi => absurd hi List.not_mem_nil, Or.inl ⟨hnothing, rfl, rfl⟩⟩
  | ok deadLetters =>
      simp only
      cases hbuild : w.configuration.buildTopology w.topics w.application.draws with
      | error fault => exact ⟨fun i hi => absurd hi List.not_mem_nil, Or.inl ⟨hnothing, rfl, rfl⟩⟩
      | ok context =>
          simp only
          split
          · unfold afterLayouts
            split
            · exact ⟨hbuild, hnothing, rfl⟩
            · exact ⟨hbuild, hnothing, rfl⟩
          · exact ⟨hbuild, hnothing, rfl⟩

/-- Others go on. -/
theorem Law.other {a : Action} (h : w.Law s₀ past ⟨s, phase⟩) (plain : a.registers = false)
    (taken : s.step? a = some s') : w.Law s₀ (past ++ [.other a]) ⟨s', phase⟩ := by
  have hregistry := registry_of_plain plain taken
  have hpast : Unrefused (past ++ [.other a]) ↔ Unrefused past := by
    rw [unrefused_concat]
    exact and_iff_left rfl
  have hforce : w.InForce s₀ s → w.InForce s₀ s' := by
    rintro ⟨context, hbuild, hregistered⟩
    exact ⟨context, hbuild, hregistry.trans hregistered⟩
  unfold Law at h ⊢
  rw [hpast]
  cases phase with
  | describing h context todo known failures => exact ⟨h.1, h.2.1, hregistry.trans h.2.2⟩
  | creating h context known failures => exact ⟨h.1, h.2.1, hregistry.trans h.2.2⟩
  | registering h context => exact ⟨h.1, h.2.1, hregistry.trans h.2.2⟩
  | starting todo started =>
      exact ⟨hforce h.1, h.2⟩
  | stopping todo started e =>
      obtain ⟨inForce, hpast, hplain, hstarted⟩ := h
      exact ⟨hforce inForce, hpast, hplain,
        fun i hi => (hstarted i hi).imp_right fun ended => ended.step taken⟩
  | returned answer started =>
      cases answer with
      | ok ids => trivial
      | error e =>
          obtain ⟨hended, hcases⟩ := h
          refine ⟨fun i hi => (hended i hi).step taken, hcases.imp ?_ ?_⟩
          · exact fun hfirst => ⟨hfirst.1, hregistry.trans hfirst.2.1, hfirst.2.2⟩
          · exact fun hlast => ⟨hlast.1, hforce hlast.2⟩

/-- An event that is no refusal. -/
theorem unrefused_of_plain (hpast : Unrefused past) (hevent : event.isRefusal = false) :
    Unrefused (past ++ [event]) := unrefused_concat.2 ⟨hpast, hevent⟩

/-- **Every step keeps the law.** -/
theorem Law.step (h : w.Law s₀ past t) (step : w.Step t event u) :
    w.Law s₀ (past ++ [event]) u := by
  cases step with
  | other plain taken => exact h.other plain taken
  | @described s handler context name rest known failures layout =>
      obtain ⟨hbuild, hpast, hregistry⟩ := h
      have hpast' : Unrefused (past ++ [.describe name (.ok layout)]) :=
        unrefused_of_plain hpast rfl
      unfold afterLayouts
      split
      · exact ⟨hbuild, hpast', hregistry⟩
      · exact ⟨hbuild, hpast', hregistry⟩
  | asksAgain e more =>
      obtain ⟨hbuild, hpast, hregistry⟩ := h
      exact ⟨hbuild, unrefused_of_plain hpast rfl, hregistry⟩
  | undescribed e last =>
      obtain ⟨_, hpast, hregistry⟩ := h
      exact ⟨fun i hi => absurd hi List.not_mem_nil,
        Or.inl ⟨unrefused_of_plain hpast rfl, hregistry, rfl⟩⟩
  | created broker =>
      obtain ⟨hbuild, hpast, hregistry⟩ := h
      exact ⟨hbuild, unrefused_of_plain hpast rfl, hregistry⟩
  | triesAgain broker e more =>
      obtain ⟨hbuild, hpast, hregistry⟩ := h
      exact ⟨hbuild, unrefused_of_plain hpast rfl, hregistry⟩
  | uncreated broker e last =>
      obtain ⟨_, hpast, hregistry⟩ := h
      exact ⟨fun i hi => absurd hi List.not_mem_nil,
        Or.inl ⟨unrefused_of_plain hpast rfl, hregistry, rfl⟩⟩
  | registered =>
      obtain ⟨hbuild, hpast, hregistry⟩ := h
      refine ⟨⟨_, hbuild, ?_⟩, unrefused_of_plain hpast rfl⟩
      rw [← hregistry]
  | hired broker source => exact ⟨h.1, unrefused_of_plain h.2 rfl⟩
  | @refused s l handler rest started broker e =>
      refine ⟨h.1, fun hpast => ?_, fun a ha => ?_, fun i hi => Or.inl ?_⟩
      · have hevent := (unrefused_concat.1 hpast).2
        cases hevent
      · obtain ⟨i, _, hi⟩ := List.mem_flatMap.1 ha
        exact registers_of_mem_stopActions hi
      · exact List.mem_flatMap.2 ⟨i, hi, by simp [stopActions]⟩
  | wired => trivial
  | @stopped s s' a rest started e taken =>
      obtain ⟨⟨context, hbuild, hregistered⟩, hpast, hplain, hstarted⟩ := h
      have hregistry := registry_of_plain (hplain a List.mem_cons_self) taken
      refine ⟨⟨context, hbuild, hregistry.trans hregistered⟩,
        fun hall => hpast (unrefused_concat.1 hall).1,
        fun b hb => hplain b (List.mem_cons_of_mem a hb), fun i hi => ?_⟩
      rcases hstarted i hi with hwaits | hended
      · rcases List.mem_cons.1 hwaits with rfl | hlater
        · -- the end of this consumer has just been awaited
          exact Or.inr (System.isFinal_of_collect taken)
        · exact Or.inl hlater
      · exact Or.inr (hended.step taken)
  | gaveUp =>
      obtain ⟨inForce, hpast, _, hstarted⟩ := h
      refine ⟨fun i hi => ?_, Or.inr ⟨fun hall => hpast (unrefused_concat.1 hall).1, inForce⟩⟩
      exact (hstarted i hi).resolve_left List.not_mem_nil

/-- **The law holds along every run.** -/
theorem Law.run (h : w.Law s₀ past t) (run : w.run t events = some u) :
    w.Law s₀ (past ++ events) u := by
  induction events generalizing t past with
  | nil =>
      cases run
      rw [List.append_nil]
      exact h
  | cons event rest ih =>
      obtain ⟨t', htaken, hrest⟩ := Option.bind_eq_some_iff.1 run
      have hlaw := ih (h.step (.of_step? htaken)) hrest
      rwa [List.append_assoc] at hlaw

/-! ## §3. What is left in force. -/

/-- The chains of the wiring are left in force, and for other sources those that were; nothing has
changed exactly where all chains of the wiring were in force before. -/
def LeavesChains (w : Wiring) (s s' : System) : Prop :=
  ∃ context, w.configuration.buildTopology w.topics w.application.draws = .ok context
    ∧ context.chains.map Chain.source = w.topics
    ∧ (∀ source, s'.registry.chain? source
        = (context.chain? source).or (s.registry.chain? source))
    ∧ ((∀ source, s'.registry.chain? source = s.registry.chain? source)
        ↔ ∀ chain ∈ context.chains, s.registry.chain? chain.source = some chain)

/-- Chains that were put in force are left behind. -/
theorem InForce.leavesChains (h : w.InForce s s') : w.LeavesChains s s' := by
  obtain ⟨context, hbuild, hregistry⟩ := h
  obtain ⟨hsound, hsources⟩ := Configuration.of_buildTopology hbuild
  have hchain : ∀ source, s'.registry.chain? source
      = (context.chain? source).or (s.registry.chain? source) := by
    intro source
    rw [hregistry]
    exact Registry.chain?_register_eq hsound.sources
  refine ⟨context, hbuild, hsources, hchain, fun hsame chain hmem => ?_, fun hold source => ?_⟩
  · rw [← hsame, hregistry]
    exact s.registry.chain?_register context hsound.sources hmem
  · rw [hchain]
    cases hfound : context.chain? source with
    | none => rfl
    | some chain =>
        obtain ⟨hmem, rfl⟩ := Context.source_of_chain? hfound
        exact (hold chain hmem).symm

/-- **An attempt that has failed leaves its chains in force if it was refused a subscription**, and
otherwise those of before. -/
theorem Law.left (h : w.Law s past t)
    (failed : (∃ i started, t.phase = .returned (.error i) started)
      ∨ ∃ todo started e, t.phase = .stopping todo started e) :
    ((∀ event ∈ past, event.isRefusal = false) → t.system.registry = s.registry)
      ∧ ((∃ event ∈ past, event.isRefusal = true) → w.LeavesChains s t.system) := by
  unfold Law at h
  have hrefused : (∃ event ∈ past, event.isRefusal = true) → ¬Unrefused past := by
    rintro ⟨event, hevent, hrefusal⟩ hunrefused
    rw [hunrefused event hevent] at hrefusal
    cases hrefusal
  rcases failed with ⟨i, started, hphase⟩ | ⟨todo, started, e, hphase⟩
  · rw [hphase] at h
    obtain ⟨_, ⟨hunrefused, hregistry, _⟩ | ⟨hrefused', inForce⟩⟩ := h
    · exact ⟨fun _ => hregistry, fun hsome => absurd hunrefused (hrefused hsome)⟩
    · exact ⟨fun hnone => absurd hnone hrefused', fun _ => inForce.leavesChains⟩
  · rw [hphase] at h
    exact ⟨fun hnone => absurd hnone h.2.1, fun _ => h.1.leavesChains⟩

end Wiring

end Redelivery
