/-
  Redelivery.Proofs.Conservation.Turns
  ────────────────────────────────────
  **What one step of a system can do.**

  One constructor for each kind of step, as far as records are concerned:
  what becomes of the broker, of the consumer that takes the step, and of the
  journal.  `Turn.of_step` says that every step of a system whose consumers
  have subscriptions is one of these turns.
-/
import Redelivery.Proofs.Bus.Upkeep
import Redelivery.Proofs.Conservation.Book
import Redelivery.Proofs.System.Effects

namespace Redelivery

/-! ## §1. Phases. -/

/-- The record that a consumer has received and not yet committed. -/
def Phase.inHand? : Phase → Option Record
  | .received r | .holding r _ | .delivering r _ | .committing r => some r
  | _ => none

/-- Whether the listener is done with the record, but its offset is not committed. -/
def Phase.isSettled : Phase → Bool
  | .delivering _ (.ended (.ok outcome)) => outcome.isCopy
  | .committing _ => true
  | _ => false

/-! ## §2. Turns. -/

namespace System

/-- The steps of a consumer that touch neither the broker nor the journal. -/
inductive Shift (l : Listener) : Phase → Phase → Prop where
  | hold (r : Record) (id : Nat) : Shift l (.received r) (.holding r id)
  | beginReceived (r : Record) : Shift l (.received r) (.delivering r (.start l r))
  | beginHeld (r : Record) (id : Nat) : Shift l (.holding r id) (.delivering r (.start l r))
  | resume (wake now : Nat) : Shift l (.pausing wake) (.polling now)

/-- The phases that a consumer can leave for good without being done with a record. -/
inductive Closes : Phase → Phase → Prop where
  | polling (since : Nat) : Closes (.polling since) (.ended (.ok ()))
  | pausing (wake : Nat) : Closes (.pausing wake) (.ended (.ok ()))
  | holding (r : Record) (id : Nat) : Closes (.holding r id) (.ended (.ok ()))
  | brokeDown (r : Record) : Closes (.delivering r .brokeDown) .brokeDown

/-- A shift neither ends a consumer nor starts from one that has ended. -/
theorem Shift.isFinal {l : Listener} {p p' : Phase} (shift : Shift l p p') :
    p.isFinal = false ∧ p'.isFinal = false := by
  cases shift with
  | hold r id => exact ⟨rfl, rfl⟩
  | beginReceived r => exact ⟨rfl, rfl⟩
  | beginHeld r id => exact ⟨rfl, rfl⟩
  | resume wake now => exact ⟨rfl, rfl⟩

/-- A shift keeps the record in hand. -/
theorem Shift.inHand? {l : Listener} {p p' : Phase} (shift : Shift l p p') :
    p'.inHand? = p.inHand? := by
  cases shift with
  | hold r id => rfl
  | beginReceived r => rfl
  | beginHeld r id => rfl
  | resume wake now => rfl

theorem Shift.isSettled {l : Listener} {p p' : Phase} (shift : Shift l p p') :
    p'.isSettled = p.isSettled := by
  cases shift with
  | hold r id => rfl
  | beginReceived r => rfl
  | beginHeld r id => rfl
  | resume wake now => rfl

/-- To close is to end, and not with an error. -/
theorem Closes.isFinal {p p' : Phase} (closes : Closes p p') :
    p.isFinal = false ∧ p'.isFinal = true ∧ ∀ e, p' ≠ .ended (.error e) := by
  cases closes with
  | polling since => exact ⟨rfl, rfl, fun e he => by cases he⟩
  | pausing wake => exact ⟨rfl, rfl, fun e he => by cases he⟩
  | holding r activation => exact ⟨rfl, rfl, fun e he => by cases he⟩
  | brokeDown r => exact ⟨rfl, rfl, fun e he => by cases he⟩

theorem Closes.isSettled {p p' : Phase} (closes : Closes p p') :
    p'.isSettled = p.isSettled := by
  cases closes with
  | polling since => rfl
  | pausing wake => rfl
  | holding r activation => rfl
  | brokeDown r => rfl

/-- `Turn s a s'`: the action `a` takes the system from `s` to `s'`, in one of these ways. -/
inductive Turn (s : System) : Action → System → Prop where
  /-- No record moves. -/
  | idle {a : Action} {s' : System} (broker : s.broker.Alike s'.broker)
      (registry : s'.registry = s.registry) (journal : s'.journal = s.journal)
      (consumers : s'.consumers = s.consumers) : Turn s a s'
  /-- A record from outside is on its topic. -/
  | accepted (r : OutgoingRecord) (ok : (s.broker.publish r s.clock.wall).1 = .ok ()) :
      Turn s (.publish r) { s with broker := (s.broker.publish r s.clock.wall).2 }
  | started (l : Listener) (h : Handler) (group : String) {s' : System}
      (ok : s.start l h group = .ok s') : Turn s (.start l h group) s'
  /-- Somebody outside does something to a consumer that does not change its phase. -/
  | flagged {a : Action} {i : Nat} {c c' : Consumer} (here : s.consumers[i]? = some c)
      (listener : c'.listener = c.listener) (group : c'.group = c.group)
      (source : c'.source = c.source) (phase : c'.phase = c.phase) :
      Turn s a (s.put s.broker i c' [] s.scheduler)
  | moved {a : Action} {i : Nat} {c : Consumer} {phase : Phase} (scheduler : Scheduler)
      (here : s.consumers[i]? = some c) (shift : Shift c.listener c.phase phase) :
      Turn s a (s.put s.broker i { c with phase := phase } [] scheduler)
  /-- A record is received. -/
  | polled {a : Action} {i id since : Nat} {c : Consumer} {r : Record}
      (here : s.consumers[i]? = some c) (phase : c.phase = .polling since)
      (source : c.source = .subscription id) (received : (s.broker.receive id).1 = some r) :
      Turn s a (s.put (s.broker.receive id).2 i { c with phase := .received r } [] s.scheduler)
  /-- The listener goes on, and no copy is put on a topic. -/
  | delivered {i : Nat} {c : Consumer} {r : Record} {d d' : Delivery} {choice : Choice}
      {stage : Stage} {entries : List JournalEntry} (here : s.consumers[i]? = some c)
      (phase : c.phase = .delivering r d)
      (move : Delivery.Move (some i) c.listener c.handler r choice s.toStage d stage d')
      (broker : s.broker.Alike stage.broker) (plain : Plain entries)
      (unsettled : ∀ outcome, d' = .ended (.ok outcome) → outcome.isCopy = false) :
      Turn s (.proceed i choice)
        (s.put stage.broker i { c with phase := .delivering r d' } entries s.scheduler)
  /-- A copy is put on a topic. -/
  | published {i : Nat} {c : Consumer} {r : Record} {out : OutgoingRecord} {outcome : Outcome}
      {failures wake : Nat} {choice : Choice} (here : s.consumers[i]? = some c)
      (phase : c.phase = .delivering r (.publishing out outcome failures wake))
      (ok : (s.broker.publish out s.clock.wall).1 = .ok ()) :
      Turn s (.proceed i choice)
        (s.put (s.broker.publish out s.clock.wall).2 i
          { c with phase := .delivering r (.ended (.ok outcome)) } [] s.scheduler)
  /-- The listener has dealt with a record. -/
  | concluded {i : Nat} {c : Consumer} {r : Record} {outcome : Outcome} {choice : Choice}
      {time : Nat} (here : s.consumers[i]? = some c)
      (phase : c.phase = .delivering r (.ended (.ok outcome))) :
      Turn s (.proceed i choice)
        (s.put s.broker i { c with phase := .committing r }
          [⟨time, some i, .concluded r (.ok outcome)⟩] s.scheduler)
  /-- The listener could not deal with a record, and the consumer stops. -/
  | failed {i id : Nat} {c : Consumer} {r : Record} {e : Error} {choice : Choice} {time : Nat}
      (here : s.consumers[i]? = some c) (phase : c.phase = .delivering r (.ended (.error e)))
      (source : c.source = .subscription id) (stops : e.stopsConsumer = true) :
      Turn s (.proceed i choice)
        (s.put (s.broker.close id) i { c with phase := .ended (.error e) }
          [⟨time, some i, .concluded r (.error e)⟩] s.scheduler)
  /-- The listener could not deal with a record, and the consumer passes it by. -/
  | passedBy {i : Nat} {c : Consumer} {r : Record} {e : Error} {choice : Choice} {time : Nat}
      (here : s.consumers[i]? = some c) (phase : c.phase = .delivering r (.ended (.error e)))
      (goesOn : e.stopsConsumer = false) :
      Turn s (.proceed i choice)
        (s.put s.broker i { c with phase := .committing r }
          [⟨time, some i, .concluded r (.error e)⟩] s.scheduler)
  /-- The offset of a record is committed, or cannot be. -/
  | committed {i id : Nat} {c : Consumer} {r : Record} {choice : Choice} {time now : Nat}
      {ok : Bool} (here : s.consumers[i]? = some c) (phase : c.phase = .committing r)
      (source : c.source = .subscription id) :
      Turn s (.proceed i choice)
        (s.put (s.broker.commit id r.topic r.offset).2 i { c with phase := .polling now }
          [⟨time, some i, .committed r ok⟩] s.scheduler)
  | closed {a : Action} {i id : Nat} {c : Consumer} {phase : Phase}
      (here : s.consumers[i]? = some c) (closes : Closes c.phase phase)
      (source : c.source = .subscription id) :
      Turn s a (s.put (s.broker.close id) i { c with phase := phase } [] s.scheduler)

/-! ## §3. Every step is a turn. -/

variable {s s' : System} {i : Nat} {c c' : Consumer} {a : Action}

/-- Whoever notices a stop closes. -/
theorem Closes.of_waits {p : Phase} (waits : p.waits = true) : Closes p (.ended (.ok ())) := by
  cases p with
  | polling since => exact .polling since
  | pausing wake => exact .pausing wake
  | holding r id => exact .holding r id
  | _ => cases waits

/-- A move that puts no copy on a topic leaves the broker as it looks, and settles nothing. -/
theorem Move.quiet {consumer : Option Nat} {l : Listener} {h : Handler} {r : Record}
    {choice : Choice} {stage stage' : Stage} {d d' : Delivery}
    (move : Delivery.Move consumer l h r choice stage d stage' d')
    (hcopy : ∀ out outcome failures wake, d = .publishing out outcome failures wake →
      (stage.broker.publish out stage.clock.wall).1 ≠ .ok ()) :
    stage.broker.Alike stage'.broker
      ∧ ∀ outcome, d' = .ended (.ok outcome) → outcome.isCopy = false := by
  have hrefused : ∀ {out e broker},
      stage.broker.publish out stage.clock.wall = (.error e, broker) →
      stage.broker.Alike broker := by
    intro out e broker answer
    have halike := Broker.alike_publish_of_error (congrArg Prod.fst answer)
    rw [answer] at halike
    exact halike
  cases move with
  | called attempt =>
      cases h with
      | named name => exact ⟨.refl _, fun outcome heq => by cases heq⟩
      | logging level => exact ⟨.refl _, fun outcome heq => by cases heq⟩
  | succeeded due =>
      refine ⟨.refl _, fun outcome heq => ?_⟩
      cases heq
      rfl
  | brokeDown due => exact ⟨.refl _, fun outcome heq => by cases heq⟩
  | again due verdict => exact ⟨.refl _, fun outcome heq => by cases heq⟩
  | finished due verdict =>
      refine ⟨.refl _, fun outcome heq => ?_⟩
      -- a verdict ends a delivery by dropping, or with an error
      rcases Listener.of_verdict_finish verdict with hdropped | ⟨e, _, herror⟩
      · rw [hdropped] at heq
        cases heq
        rfl
      · rw [herror] at heq
        cases heq
  | republishing due verdict => exact ⟨.refl _, fun outcome heq => by cases heq⟩
  | rested due => exact ⟨.refl _, fun outcome heq => by cases heq⟩
  | published due answer => exact absurd (congrArg Prod.fst answer) (hcopy _ _ _ _ rfl)
  | refused due answer left => exact ⟨hrefused answer, fun outcome heq => by cases heq⟩
  | gaveUp due answer left => exact ⟨hrefused answer, fun outcome heq => by cases heq⟩

/-- What a consumer does that goes on with a delivery. -/
theorem turn_of_move {r : Record} {d d' : Delivery} {choice : Choice} {stage : Stage}
    {entries : List JournalEntry} (here : s.consumers[i]? = some c)
    (phase : c.phase = .delivering r d)
    (move : Delivery.Move (some i) c.listener c.handler r choice s.toStage d stage d')
    (left : stage = { s.toStage with broker := stage.broker, journal := s.journal ++ entries })
    (plain : Plain entries) :
    Turn s (.proceed i choice)
      (s.put stage.broker i { c with phase := .delivering r d' } entries s.scheduler) := by
  -- a copy that is put on a topic is a turn of its own
  by_cases hcopy : ∃ out outcome failures wake, d = .publishing out outcome failures wake
      ∧ (s.broker.publish out s.clock.wall).1 = .ok ()
  · obtain ⟨out, outcome, failures, wake, rfl, hok⟩ := hcopy
    cases move with
    | published due answer =>
        have hturn : Turn s (.proceed i choice) _ := .published here phase hok
        have hnone : entries = [] := List.self_eq_append_right.1 (congrArg Stage.journal left)
        rw [congrArg Prod.snd answer] at hturn
        rw [hnone]
        exact hturn
    | refused due answer left =>
        rw [congrArg Prod.fst answer] at hok
        cases hok
    | gaveUp due answer left =>
        rw [congrArg Prod.fst answer] at hok
        cases hok
  · obtain ⟨halike, hunsettled⟩ := Move.quiet move
      fun out outcome failures wake hd hok => hcopy ⟨out, outcome, failures, wake, hd, hok⟩
    exact .delivered here phase move halike plain hunsettled

/-- What a consumer does that has come to the end of a delivery. -/
theorem turn_of_result {id : Nat} {r : Record} {result : Except Error Outcome} {choice : Choice}
    (here : s.consumers[i]? = some c) (phase : c.phase = .delivering r (.ended result))
    (source : c.source = .subscription id) :
    Turn s (.proceed i choice)
      (s.put (c.source.brokerAt (Consumer.afterDelivery r result) s.broker) i
        { c with phase := Consumer.afterDelivery r result }
        [⟨s.now, some i, .concluded r result⟩] s.scheduler) := by
  cases result with
  | ok outcome => exact .concluded here phase
  | error e =>
      have hafter : Consumer.afterDelivery r (.error e)
          = if e.stopsConsumer then .ended (.error e) else .committing r := rfl
      cases hstops : e.stopsConsumer with
      | true =>
          have hgivenUp : c.source.brokerAt (.ended (.error e)) s.broker = s.broker.close id := by
            rw [source]
            rfl
          rw [hafter, hstops, if_pos rfl, hgivenUp]
          exact .failed here phase source hstops
      | false =>
          rw [hafter, hstops]
          exact .passedBy here phase hstops

/-- What a consumer of the broker does. -/
theorem Turn.of_advance {id : Nat} {b : Broker} {x : Scheduler} {entries : List JournalEntry}
    (here : s.consumers[i]? = some c) (source : c.source = .subscription id)
    (advance : s.Advance i c a b x c' entries) : Turn s a (s.put b i c' entries x) := by
  have hgivenUp : c.source.givenUp s.broker = s.broker.close id := by
    rw [source]
    rfl
  cases advance with
  | noticed told waits =>
      rw [hgivenUp]
      exact .closed here (.of_waits waits) source
  | polled choice phase gives =>
      generalize hσ : c.source = σ at gives
      cases gives with
      | inbox received =>
          have hturn := Turn.polled (a := .proceed i choice) here phase hσ (congrArg Prod.fst received)
          rw [received] at hturn
          rw [hσ.symm]
          exact hturn
      | event ready => cases hσ.symm.trans source
  | begun choice phase plain => exact .moved s.scheduler here (phase ▸ .beginReceived _)
  | asked choice phase delayed => exact .moved _ here (phase ▸ .hold _ _)
  | resumed choice phase awake => exact .moved s.scheduler here (phase ▸ .resume _ _)
  | fired choice phase outcome => exact .moved s.scheduler here (phase ▸ .beginHeld _ _)
  | cancelled choice phase outcome =>
      rw [hgivenUp]
      exact .closed here (phase ▸ .holding _ _) source
  | moved phase move left plain uncommitted => exact turn_of_move here phase move left plain
  | concluded choice phase => exact turn_of_result here phase source
  | brokeDown choice phase =>
      rw [hgivenUp]
      exact .closed here (phase ▸ .brokeDown _) source
  | committed choice phase takes =>
      generalize hσ : c.source = σ at takes
      cases takes with
      | offset id =>
          rw [hσ.symm]
          exact .committed here phase hσ
      | told events ok rest => cases hσ.symm.trans source
      | silent events => cases hσ.symm.trans source

/-- What a step does to a consumer that is not its own. -/
theorem turn_of_flag (here : s.consumers[i]? = some c)
    (listener : c'.listener = c.listener) (group : c'.group = c.group)
    (source : c'.source = c.source) (phase : c'.phase = c.phase) :
    Turn s a (s.setConsumer i c') := by
  have hturn := Turn.flagged (a := a) here listener group source phase
  rw [put_nil] at hturn
  exact hturn

/-- A publish from outside is a turn. -/
theorem turn_of_publish (r : OutgoingRecord) :
    Turn s (.publish r) { s with broker := (s.broker.publish r s.clock.wall).2 } := by
  cases hanswer : (s.broker.publish r s.clock.wall).1 with
  | ok u => exact .accepted r hanswer
  | error e => exact .idle (Broker.alike_publish_of_error hanswer) rfl rfl rfl

/-- Consumers get their records from the broker. -/
def OnBroker (s : System) : Prop := ∀ c ∈ s.consumers, ∃ id, c.source = .subscription id

/-- **Every step is a turn**, if it puts no other chains in force and all consumers, old and new, get
their records from the broker. -/
theorem Turn.of_step (h : s.step? a = some s') (source : s.OnBroker)
    (register : ∀ context, a ≠ .register context)
    (feed : ∀ l h group events commits, a ≠ .startFeed l h group events commits) :
    Turn s a s' := by
  cases Effect.of_step h with
  | published r => exact turn_of_publish r
  | failing count => exact .idle (Broker.alike_failNext s.broker count) rfl rfl rfl
  | created name layout =>
      exact .idle (Broker.alike_createTopic s.broker name layout) rfl rfl rfl
  | registered context => exact absurd rfl (register context)
  | started l handler group ok => exact .started l handler group ok
  | fed l handler group events commits => exact absurd rfl (feed l handler group events commits)
  | told here => exact turn_of_flag here rfl rfl rfl rfl
  | cancelling here => exact .idle (.refl _) rfl rfl rfl
  | taken here kept => exact turn_of_flag here rfl rfl rfl rfl
  | collected here taken ended => exact turn_of_flag here rfl rfl rfl rfl
  | advanced here advance =>
      obtain ⟨id, hid⟩ := source _ (List.mem_of_getElem? here)
      exact .of_advance here hid advance
  | worked work => exact .idle (.refl _) rfl rfl rfl
  | fired fire => exact .idle (.refl _) rfl rfl rfl
  | shutdown => exact .idle (.refl _) rfl rfl rfl
  | halted halt => exact .idle (.refl _) rfl rfl rfl
  | waited elapsed => exact .idle (.refl _) rfl rfl rfl

/-! ## §4. What every turn keeps. -/

theorem OnBroker.put {c' : Consumer} {b : Broker} {entries : List JournalEntry}
    {scheduler : Scheduler} (h : s.OnBroker) (here : s.consumers[i]? = some c)
    (source : c'.source = c.source) : (s.put b i c' entries scheduler).OnBroker := by
  intro x hx
  rcases List.mem_or_eq_of_mem_set hx with hold | rfl
  · exact h x hold
  · rw [source]
    exact h c (List.mem_of_getElem? here)

/-- Every turn leaves all consumers on subscriptions of the broker. -/
theorem Turn.onBroker {a : Action} (turn : Turn s a s') (h : s.OnBroker) : s'.OnBroker := by
  cases turn with
  | idle broker registry journal consumers =>
      intro x hx
      rw [consumers] at hx
      exact h x hx
  | accepted r ok => exact h
  | started l handler group ok =>
      -- a consumer that is started gets a subscription of its own
      rw [of_start ok]
      intro x hx
      rcases List.mem_append.1 hx with hold | hnew
      · exact h x hold
      · rw [List.mem_singleton] at hnew
        rw [hnew]
        exact ⟨_, rfl⟩
  | flagged here listener group source phase => exact h.put here source
  | moved scheduler here shift => exact h.put here rfl
  | polled here phase source received => exact h.put here rfl
  | delivered here phase move broker plain unsettled => exact h.put here rfl
  | published here phase ok => exact h.put here rfl
  | concluded here phase => exact h.put here rfl
  | failed here phase source stops => exact h.put here rfl
  | passedBy here phase goesOn => exact h.put here rfl
  | committed here phase source => exact h.put here rfl
  | closed here closes source => exact h.put here rfl

/-- Logs only grow. -/
theorem Turn.records {a : Action} (turn : Turn s a s') (topic : String) :
    s.broker.records topic <+: s'.broker.records topic := by
  cases turn with
  | idle broker registry journal consumers =>
      exact Broker.grown_of_eq (broker.records topic)
  | accepted r ok => exact (Broker.upheld_publish "" ok).records topic
  | started l handler group ok =>
      rw [of_start ok]
      exact Broker.grown_of_eq ((Broker.still_subscribe s.broker l.node.name group).records topic)
  | flagged here listener group source phase => exact List.prefix_refl _
  | moved scheduler here shift => exact List.prefix_refl _
  | polled here phase source received =>
      exact (Broker.onward_receive s.broker "" "" _).records topic
  | delivered here phase move broker plain unsettled =>
      exact Broker.grown_of_eq (broker.records topic)
  | published here phase ok => exact (Broker.upheld_publish "" ok).records topic
  | concluded here phase => exact List.prefix_refl _
  | failed here phase source stops => exact List.prefix_refl _
  | passedBy here phase goesOn => exact List.prefix_refl _
  | committed here phase source =>
      show _ <+: (s.broker.commit _ _ _).2.records topic
      unfold Broker.commit
      split
      · exact List.prefix_refl _
      · split
        · exact List.prefix_refl _
        · exact List.prefix_refl _
  | closed here closes source => exact List.prefix_refl _

end System

end Redelivery
