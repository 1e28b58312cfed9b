/-
  Redelivery.Proofs.System.Steps
  ──────────────────────────────
  **What a step does to consumers, to the scheduler and to the chains in force.**

  Either a consumer advances, and comes to another phase, or no phase changes:

      phase, scheduler  ──proceed i / notice i──▶  phase', scheduler', journal ++ entries

  `Step.of_step` says that every action is one of these; it is about all
  sources of records and about all actions, unlike the turns of an endpoint,
  which follow the broker.
-/
import Redelivery.Proofs.Conservation.Turns

namespace Redelivery

/-! ## §1. Consumers that advance. -/

/-- After a delivery the offset is committed, or the consumer has ended. -/
theorem Consumer.of_afterDelivery {r : Record} {result : Except Error Outcome} {p : Phase}
    (h : Consumer.afterDelivery r result = p) : p = .committing r ∨ ∃ e, p = .ended (.error e) := by
  unfold afterDelivery at h
  split at h
  · exact Or.inl h.symm
  · split at h
    · exact Or.inr ⟨_, h.symm⟩
    · exact Or.inl h.symm

/-- After a delivery a consumer commits, or ends with an error. -/
theorem Consumer.afterDelivery_cases (r : Record) (result : Except Error Outcome) :
    Consumer.afterDelivery r result = .committing r
      ∨ ∃ e, Consumer.afterDelivery r result = .ended (.error e) :=
  Consumer.of_afterDelivery rfl

/-- `c'` has the same work to do as `c`. -/
structure Consumer.Becomes (c c' : Consumer) : Prop where
  listener : c'.listener = c.listener
  handler : c'.handler = c.handler
  group : c'.group = c.group
  stopping : c'.stopping = c.stopping

namespace System

variable {s s' t : System} {i : Nat} {c c' : Consumer} {a : Action} {choice : Choice}

section Advance

variable {b : Broker} {x : Scheduler} {entries : List JournalEntry}

/-- A consumer that advances has the same work to do. -/
theorem Advance.becomes (advance : s.Advance i c a b x c' entries) : c.Becomes c' := by
  cases advance with
  | _ => exact ⟨rfl, rfl, rfl, rfl⟩

/-- Only a consumer whose delivery has ended concludes a record. -/
theorem Advance.of_concluded (advance : s.Advance i c a b x c' entries) {entry : JournalEntry}
    (hentry : entry ∈ entries) {r : Record} {result : Except Error Outcome}
    (hevent : entry.event = .concluded r result) :
    entry.consumer = some i ∧ c.phase = .delivering r (.ended result) := by
  cases advance with
  | moved phase move left plain => exact absurd hevent (plain entry hentry r result)
  | concluded choice phase =>
      rw [List.mem_singleton] at hentry
      subst hentry
      cases hevent
      exact ⟨rfl, phase⟩
  | committed choice phase takes =>
      rw [List.mem_singleton] at hentry
      subst hentry
      cases hevent
  | _ => cases hentry

/-- A delivery has just begun, or one has gone on. -/
theorem Advance.of_delivering {r : Record} {d : Delivery}
    (advance : s.Advance i c a b x c' entries) (phase' : c'.phase = .delivering r d) :
    d = .start c.listener r ∨ ∃ d₀ choice stage, c.phase = .delivering r d₀
      ∧ Delivery.Move (some i) c.listener c.handler r choice s.toStage d₀ stage d := by
  cases advance with
  | begun choice phase plain =>
      cases phase'
      exact Or.inl rfl
  | fired choice phase outcome =>
      cases phase'
      exact Or.inl rfl
  | moved phase move left plain =>
      cases phase'
      exact Or.inr ⟨_, _, _, phase, move⟩
  | @polled since polled b σ choice phase gives => cases polled <;> cases phase'
  | concluded choice phase => rcases Consumer.of_afterDelivery phase' with h | ⟨_, h⟩ <;> cases h
  | _ => cases phase'

/-- **A consumer that delivers goes on with the delivery**; when that is over it concludes the record,
or breaks down with the handler. -/
theorem Advance.from_delivering {r : Record} {d : Delivery}
    (advance : s.Advance i c a b x c' entries) (phase : c.phase = .delivering r d) :
    (∃ choice stage d', a = .proceed i choice
        ∧ Delivery.Move (some i) c.listener c.handler r choice s.toStage d stage d'
        ∧ (s.put b i c' entries x).toStage = stage ∧ c' = { c with phase := .delivering r d' })
      ∨ (∃ result, d = .ended result ∧ c'.phase = Consumer.afterDelivery r result)
      ∨ d = .brokeDown ∧ c'.phase = .brokeDown := by
  cases advance with
  | moved phase' move left plain uncommitted =>
      cases phase.symm.trans phase'
      exact Or.inl ⟨_, _, _, rfl, move, left.symm, rfl⟩
  | concluded choice phase' =>
      cases phase.symm.trans phase'
      exact Or.inr (Or.inl ⟨_, rfl, rfl⟩)
  | brokeDown choice phase' =>
      cases phase.symm.trans phase'
      exact Or.inr (Or.inr ⟨rfl, rfl⟩)
  | noticed told waits =>
      rw [phase] at waits
      cases waits
  | polled choice phase' gives => cases phase.symm.trans phase'
  | begun choice phase' plain => cases phase.symm.trans phase'
  | asked choice phase' delayed => cases phase.symm.trans phase'
  | resumed choice phase' awake => cases phase.symm.trans phase'
  | fired choice phase' outcome => cases phase.symm.trans phase'
  | cancelled choice phase' outcome => cases phase.symm.trans phase'
  | committed choice phase' takes => cases phase.symm.trans phase'

end Advance

/-! ## §2. Every step. -/

/-- `Step s a s'`: what the action `a` does to consumers, scheduler, journal and chains. -/
inductive Step (s : System) : Action → System → Prop where
  /-- A consumer goes on, or notices a stop. -/
  | advanced {a : Action} {i : Nat} {c c' : Consumer} {b : Broker} {x : Scheduler}
      {entries : List JournalEntry} (here : s.consumers[i]? = some c)
      (advance : s.Advance i c a b x c' entries) : Step s a (s.put b i c' entries x)
  /-- A consumer is started. -/
  | hired {a : Action} {s' : System} (l : Listener) (h : Handler) (group : String)
      (source : Source)
      (action : a = .start l h group ∨ ∃ events commits, a = .startFeed l h group events commits)
      (consumers : s'.consumers
        = s.consumers ++ [⟨l, h, group, source, .polling s.now, false, .kept⟩])
      (scheduler : s'.scheduler = s.scheduler) (journal : s'.journal = s.journal)
      (registry : s'.registry = s.registry) : Step s a s'
  /-- A consumer is told to stop, or its handle changes hands. -/
  | told {i : Nat} {c c' : Consumer} (a : Action) (here : s.consumers[i]? = some c)
      (listener : c'.listener = c.listener) (handler : c'.handler = c.handler)
      (group : c'.group = c.group) (phase : c'.phase = c.phase)
      (stopping : c.stopping = true → c'.stopping = true) : Step s a (s.setConsumer i c')
  /-- The scheduler is asked to cancel what a consumer owns. -/
  | cancelling {i : Nat} {c : Consumer} (here : s.consumers[i]? = some c) :
      Step s (.cancelOwner i) { s with scheduler := s.scheduler.cancelOwner c.owner }
  | scheduled {x : Scheduler} (a : Action) (turn : Scheduler.Turn s.now s.scheduler x) :
      Step s a { s with scheduler := x }
  /-- Other chains are put in force. -/
  | registered (context : Context) :
      Step s (.register context) { s with registry := s.registry.register context }
  /-- Nothing of this changes. -/
  | outside {a : Action} {s' : System} (consumers : s'.consumers = s.consumers)
      (scheduler : s'.scheduler = s.scheduler) (journal : s'.journal = s.journal)
      (registry : s'.registry = s.registry) : Step s a s'

/-- **Every action is one of these steps.** -/
theorem Step.of_step (h : s.step? a = some s') : Step s a s' := by
  cases Effect.of_step h with
  | published r => exact .outside rfl rfl rfl rfl
  | failing count => exact .outside rfl rfl rfl rfl
  | created name layout => exact .outside rfl rfl rfl rfl
  | registered context => exact .registered context
  | started l handler group ok =>
      rw [of_start ok]
      exact .hired l handler group _ (Or.inl rfl) rfl rfl rfl rfl
  | fed l handler group events commits =>
      exact .hired l handler group _ (Or.inr ⟨events, commits, rfl⟩) rfl rfl rfl rfl
  | told here => exact .told _ here rfl rfl rfl rfl fun _ => rfl
  | cancelling here => exact .cancelling here
  | taken here kept => exact .told _ here rfl rfl rfl rfl id
  | collected here taken ended => exact .told _ here rfl rfl rfl rfl id
  | advanced here advance => exact .advanced here advance
  | worked work => exact .scheduled _ (.worked work)
  | fired fire => exact .scheduled _ (.fired fire)
  | shutdown => exact .scheduled _ .shutdown
  | halted halt => exact .scheduled _ (.halted halt)
  | waited elapsed => exact .outside rfl rfl rfl rfl

/-! ## §3. One consumer, the journal and the chains. -/

/-- `s.Goes i a c c'`: the action `a` leaves consumer number `i`, which was `c`, as `c'`, with the
same work to do and in the same phase, unless it advanced. -/
structure Goes (s : System) (i : Nat) (a : Action) (s' : System) (c c' : Consumer) : Prop where
  listener : c'.listener = c.listener
  handler : c'.handler = c.handler
  group : c'.group = c.group
  stopping : c.stopping = true → c'.stopping = true
  phase : c'.phase = c.phase ∨ ∃ b entries, s.Advance i c a b s'.scheduler c' entries

/-- A consumer's name never changes. -/
theorem Goes.owner (h : s.Goes i a s' c c') : c'.owner = c.owner := by
  unfold Consumer.owner Consumer.topic
  rw [h.group, h.listener]

/-- **What a step does to one consumer.** -/
theorem Step.consumer (step : Step s a s') (here : s.consumers[i]? = some c) :
    ∃ c', s'.consumers[i]? = some c' ∧ s.Goes i a s' c c' := by
  have hlt : i < s.consumers.length := (List.getElem?_eq_some_iff.1 here).1
  have hsame : s.Goes i a s' c c := ⟨rfl, rfl, rfl, id, Or.inl rfl⟩
  cases step with
  | @advanced a j cj c' b x entries hj advance =>
      rw [getElem?_put hj]
      by_cases hij : j = i
      · subst hij
        rw [here] at hj
        cases hj
        rw [if_pos rfl]
        have becomes := advance.becomes
        refine ⟨c', rfl, becomes.listener, becomes.handler, becomes.group, ?_,
          Or.inr ⟨b, entries, advance⟩⟩
        rw [becomes.stopping]
        exact id
      · rw [if_neg hij]
        exact ⟨c, here, hsame⟩
  | hired l handler group source action consumers scheduler journal registry =>
      rw [consumers, List.getElem?_append_left hlt]
      exact ⟨c, here, hsame⟩
  | @told j cj c' a hj listener handler group phase stopping =>
      show ∃ c'', (s.consumers.set j c')[i]? = some c'' ∧ _
      rw [List.getElem?_set]
      by_cases hij : j = i
      · subst hij
        rw [here] at hj
        cases hj
        rw [if_pos rfl, if_pos hlt]
        exact ⟨c', rfl, listener, handler, group, stopping, Or.inl phase⟩
      · rw [if_neg hij]
        exact ⟨c, here, hsame⟩
  | cancelling hj => exact ⟨c, here, hsame⟩
  | scheduled a turn => exact ⟨c, here, hsame⟩
  | registered context => exact ⟨c, here, hsame⟩
  | outside consumers scheduler journal registry =>
      rw [consumers]
      exact ⟨c, here, hsame⟩

/-- **What a step adds to the journal.** -/
theorem Step.journal (step : Step s a s') :
    ∃ entries, s'.journal = s.journal ++ entries ∧ ∀ entry ∈ entries, ∀ r result,
      entry.event = .concluded r result → ∃ (i : Nat) (c : Consumer), entry.consumer = some i
        ∧ s.consumers[i]? = some c ∧ c.phase = .delivering r (.ended result) := by
  have hnone : s.journal = s.journal ++ [] := (List.append_nil _).symm
  cases step with
  | @advanced a i c c' b x entries here advance =>
      refine ⟨entries, rfl, fun entry hentry r result hevent => ?_⟩
      obtain ⟨howner, hphase⟩ := advance.of_concluded hentry hevent
      exact ⟨i, c, howner, here, hphase⟩
  | hired l handler group source action consumers scheduler journal registry =>
      exact ⟨[], journal.trans hnone, by simp⟩
  | told a here listener handler group phase stopping => exact ⟨[], hnone, by simp⟩
  | cancelling here => exact ⟨[], hnone, by simp⟩
  | scheduled a turn => exact ⟨[], hnone, by simp⟩
  | registered context => exact ⟨[], hnone, by simp⟩
  | outside consumers scheduler journal registry => exact ⟨[], journal.trans hnone, by simp⟩

/-- **What a step does to the chains in force.** -/
theorem Step.registry (step : Step s a s') :
    s'.registry = s.registry ∨ ∃ context, a = .register context
      ∧ s'.registry = s.registry.register context := by
  cases step with
  | advanced here advance => exact Or.inl rfl
  | hired l handler group source action consumers scheduler journal registry => exact Or.inl registry
  | told a here listener handler group phase stopping => exact Or.inl rfl
  | cancelling here => exact Or.inl rfl
  | scheduled a turn => exact Or.inl rfl
  | registered context => exact Or.inr ⟨context, rfl, rfl⟩
  | outside consumers scheduler journal registry => exact Or.inl registry

/-! ## §4. The scheduler and the clock. -/

/-- `s.Uses a x`: what the action `a` does to the scheduler, which becomes `x`. -/
inductive Uses (s : System) : Action → Scheduler → Prop where
  | same (a : Action) : Uses s a s.scheduler
  | asked (a : Action) (delay : Nat) (owner : String) :
      Uses s a (s.scheduler.schedule s.now delay owner).2
  | cancelling {i : Nat} {c : Consumer} (here : s.consumers[i]? = some c) :
      Uses s (.cancelOwner i) (s.scheduler.cancelOwner c.owner)
  | turned (a : Action) {x : Scheduler} (turn : Scheduler.Turn s.now s.scheduler x) : Uses s a x

/-- **What a step does to the scheduler, and when.** -/
theorem Step.uses (step : Step s a s') : s.Uses a s'.scheduler := by
  cases step with
  | advanced here advance =>
      cases advance with
      | asked choice phase delayed => exact .asked _ _ _
      | _ => exact .same _
  | hired l handler group source action consumers scheduler journal registry =>
      rw [scheduler]
      exact .same a
  | told a here listener handler group phase stopping => exact .same a
  | cancelling here => exact .cancelling here
  | scheduled a turn => exact .turned a turn
  | registered context => exact .same _
  | outside consumers scheduler journal registry =>
      rw [scheduler]
      exact .same a

/-- Time has passed, or not, on the same clock. -/
structure Later (s s' : System) : Prop where
  start : s'.clock.start = s.clock.start
  now : s.now ≤ s'.now

theorem Later.refl (s : System) : s.Later s := ⟨rfl, Nat.le_refl _⟩

theorem Later.trans (h : s.Later t) (h' : t.Later s') : s.Later s' :=
  ⟨h'.start.trans h.start, Nat.le_trans h.now h'.now⟩

theorem Later.of_clock (h : s'.clock = s.clock) : s.Later s' := by
  have hnow : s'.now = s.now := congrArg Clock.elapsed h
  exact ⟨congrArg Clock.start h, Nat.le_of_eq hnow.symm⟩

/-- **The clock never goes back.** -/
theorem Later.of_step (h : s.step? a = some s') : s.Later s' := by
  cases Effect.of_step h with
  | started l handler group ok =>
      rw [of_start ok]
      exact .of_clock rfl
  | waited elapsed => exact ⟨rfl, Nat.le_max_left _ _⟩
  | _ => exact .of_clock rfl

end System

end Redelivery
