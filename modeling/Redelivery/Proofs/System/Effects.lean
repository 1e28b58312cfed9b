/-
  Redelivery.Proofs.System.Effects
  ────────────────────────────────
  **All that a step does.**

  The one place where the steps of a system are opened.  A consumer that goes
  on or notices a stop advances in eleven ways (`Advance`); each says under
  which condition, and which consumer, broker, scheduler and entries of the
  journal it leaves.  `Effect` has one constructor for each action:

      s  ──a──▶  s'     ⟹     Effect s a s'

  Whatever else is said about steps is read off these two relations.  What a
  consumer may do, it also can (`Advance.step?`).
-/
import Redelivery.Proofs.Bus.Activations
import Redelivery.Proofs.Bus.Subscriptions
import Redelivery.Proofs.Delivery.Moves
import Redelivery.System.Basic

namespace Redelivery

/-! ## §1. Sources and phases. -/

/-- Whether a consumer in this phase notices that it was told to stop. -/
def Phase.waits : Phase → Bool
  | .polling _ | .pausing _ | .holding _ _ => true
  | _ => false

namespace Source

/-- The broker once the source is given up. -/
def givenUp (b : Broker) : Source → Broker
  | .subscription id => b.close id
  | .feed _ _ => b

/-- The broker once a consumer has come to a phase: a final one gives the source up. -/
def brokerAt (σ : Source) (p : Phase) (b : Broker) : Broker :=
  if p.isFinal then σ.givenUp b else b

/-- `σ.Gives now since b answer b' σ'`: at the time `now` the source `σ` answers to who has asked
since `since`; the broker `b` becomes `b'`, and the source `σ'`. -/
inductive Gives (now since : Nat) (b : Broker) : Source → Polled → Broker → Source → Prop where
  | inbox {id : Nat} {r : Record} {b' : Broker} (received : b.receive id = (some r, b')) :
      Gives now since b (.subscription id) (.record r) b' (.subscription id)
  | event {e : FeedEvent} {rest : List FeedEvent} {commits : List Bool}
      (ready : since + e.wait ≤ now) :
      Gives now since b (.feed (e :: rest) commits) e.event b (.feed rest commits)

/-- `σ.Takes b r ok b' σ'`: the source `σ` takes the commit of `r`, and says whether it succeeded. -/
inductive Takes (b : Broker) (r : Record) : Source → Bool → Broker → Source → Prop where
  | offset (id : Nat) : Takes b r (.subscription id) (b.commit id r.topic r.offset).1.isOk
      (b.commit id r.topic r.offset).2 (.subscription id)
  | told (events : List FeedEvent) (ok : Bool) (rest : List Bool) :
      Takes b r (.feed events (ok :: rest)) ok b (.feed events rest)
  | silent (events : List FeedEvent) : Takes b r (.feed events []) true b (.feed events [])

/-- Only events that were laid down end a source, and those have nothing to give up. -/
theorem Gives.brokerAt {now since : Nat} {b b' : Broker} {σ σ' : Source} {polled : Polled}
    (gives : σ.Gives now since b polled b' σ') :
    σ'.brokerAt (Consumer.afterPoll now polled) b' = b' := by
  cases gives with
  | inbox received => rfl
  | event ready => exact ite_self b

end Source

/-! ## §2. Moves of a delivery, on the stage. -/

namespace System

/-- Entries that conclude no record. -/
def Plain (entries : List JournalEntry) : Prop :=
  ∀ e ∈ entries, ∀ r result, e.event ≠ .concluded r result

theorem plain_nil : Plain [] :=
  fun _ hentry => absurd hentry List.not_mem_nil

/-- Lines of the log conclude nothing and commit nothing. -/
theorem plain_logged (consumer : Option Nat) (time : Nat) (line : Option LogEntry)
    {entries : List JournalEntry}
    (heq : (line.toList.map Event.logged).map (fun e => ⟨time, consumer, e⟩) = entries) :
    Plain entries ∧ ∀ entry ∈ entries, entry.commit? = none := by
  have hlogged : ∀ entry ∈ entries, ∃ text, entry.event = .logged text := by
    intro entry hentry
    rw [← heq] at hentry
    obtain ⟨e, he, rfl⟩ := List.mem_map.1 hentry
    obtain ⟨text, _, rfl⟩ := List.mem_map.1 he
    exact ⟨text, rfl⟩
  refine ⟨fun entry hentry r result heq => ?_, fun entry hentry => ?_⟩
  · obtain ⟨text, hevent⟩ := hlogged entry hentry
    rw [hevent] at heq
    cases heq
  · obtain ⟨text, hevent⟩ := hlogged entry hentry
    unfold JournalEntry.commit?
    rw [hevent]

/-- **A delivery that goes on changes nothing but the broker, and adds nothing to the journal but calls
and lines of the log.** -/
theorem Move.stage_eq {consumer : Option Nat} {l : Listener} {h : Handler} {r : Record}
    {choice : Choice} {stage stage' : Stage} {d d' : Delivery}
    (move : Delivery.Move consumer l h r choice stage d stage' d') :
    ∃ entries, Plain entries ∧ (∀ entry ∈ entries, entry.commit? = none)
      ∧ stage' = { stage with broker := stage'.broker, journal := stage.journal ++ entries } := by
  have hlines : ∀ line : Option LogEntry, ∃ entries, Plain entries
      ∧ (∀ entry ∈ entries, entry.commit? = none)
      ∧ stage.note consumer (line.toList.map .logged)
        = { stage with journal := stage.journal ++ entries } := by
    intro line
    obtain ⟨hplain, huncommitted⟩ := plain_logged consumer stage.clock.elapsed line rfl
    exact ⟨_, hplain, huncommitted, rfl⟩
  cases move with
  | called attempt =>
      cases h with
      | named name =>
          refine ⟨[⟨stage.clock.elapsed, consumer, .called name r⟩], ?_, ?_, rfl⟩
          · intro entry hentry r' result heq
            rw [List.mem_singleton.1 hentry] at heq
            cases heq
          · intro entry hentry
            rw [List.mem_singleton.1 hentry]
            rfl
      | logging level => exact hlines (some ⟨level, .ofDeadLetter r⟩)
  | again due verdict => exact hlines _
  | finished due verdict => exact hlines _
  | republishing due verdict => exact hlines _
  | _ =>
      refine ⟨[], plain_nil, fun entry hentry => absurd hentry List.not_mem_nil, ?_⟩
      rw [List.append_nil]

/-! ## §3. What a consumer does. -/

/-- Replace one consumer, the broker, and what else a consumer's step changes. -/
def put (s : System) (b : Broker) (i : Nat) (c : Consumer) (entries : List JournalEntry)
    (scheduler : Scheduler) : System :=
  { s with
    broker := b
    journal := s.journal ++ entries
    scheduler := scheduler
    consumers := s.consumers.set i c }

/-- `s.Advance i c a b x c' entries`: by the action `a` the consumer number `i`, which is `c`, becomes
`c'`, and leaves the broker `b`, the scheduler `x` and new entries of the journal. -/
inductive Advance (s : System) (i : Nat) (c : Consumer) :
    Action → Broker → Scheduler → Consumer → List JournalEntry → Prop where
  /-- It ends because it was told to. -/
  | noticed (told : c.stopping = true) (waits : c.phase.waits = true) :
      Advance s i c (.notice i) (c.source.givenUp s.broker) s.scheduler
        { c with phase := .ended (.ok ()) } []
  | polled {since : Nat} {polled : Polled} {b : Broker} {σ : Source} (choice : Choice)
      (phase : c.phase = .polling since)
      (gives : c.source.Gives s.now since s.broker polled b σ) :
      Advance s i c (.proceed i choice) b s.scheduler
        { c with source := σ, phase := Consumer.afterPoll s.now polled } []
  /-- It begins with a record without a due time. -/
  | begun {r : Record} (choice : Choice) (phase : c.phase = .received r) (plain : r.due? = none) :
      Advance s i c (.proceed i choice) s.broker s.scheduler
        { c with phase := .delivering r (.start c.listener r) } []
  /-- It asks for an activation at the due time of its record. -/
  | asked {r : Record} {due : Int64} (choice : Choice) (phase : c.phase = .received r)
      (delayed : r.due? = some due) :
      Advance s i c (.proceed i choice) s.broker
        (s.scheduler.schedule s.now (Scheduler.delayUntil s.clock.wall due) c.owner).2
        { c with phase := .holding r s.scheduler.nextId } []
  | resumed {wake : Nat} (choice : Choice) (phase : c.phase = .pausing wake)
      (awake : wake ≤ s.now) :
      Advance s i c (.proceed i choice) s.broker s.scheduler { c with phase := .polling s.now } []
  /-- The activation fired. -/
  | fired {r : Record} {id : Nat} (choice : Choice) (phase : c.phase = .holding r id)
      (outcome : s.scheduler.outcome? id = some true) :
      Advance s i c (.proceed i choice) s.broker s.scheduler
        { c with phase := .delivering r (.start c.listener r) } []
  /-- The activation was cancelled. -/
  | cancelled {r : Record} {id : Nat} (choice : Choice) (phase : c.phase = .holding r id)
      (outcome : s.scheduler.outcome? id = some false) :
      Advance s i c (.proceed i choice) (c.source.givenUp s.broker) s.scheduler
        { c with phase := .ended (.ok ()) } []
  /-- The delivery goes on. -/
  | moved {r : Record} {d d' : Delivery} {choice : Choice} {stage : Stage}
      {entries : List JournalEntry} (phase : c.phase = .delivering r d)
      (move : Delivery.Move (some i) c.listener c.handler r choice s.toStage d stage d')
      (left : stage = { s.toStage with broker := stage.broker, journal := s.journal ++ entries })
      (plain : Plain entries) (uncommitted : ∀ entry ∈ entries, entry.commit? = none) :
      Advance s i c (.proceed i choice) stage.broker s.scheduler
        { c with phase := .delivering r d' } entries
  | concluded {r : Record} {result : Except Error Outcome} (choice : Choice)
      (phase : c.phase = .delivering r (.ended result)) :
      Advance s i c (.proceed i choice)
        (c.source.brokerAt (Consumer.afterDelivery r result) s.broker) s.scheduler
        { c with phase := Consumer.afterDelivery r result }
        [⟨s.now, some i, .concluded r result⟩]
  | brokeDown {r : Record} (choice : Choice) (phase : c.phase = .delivering r .brokeDown) :
      Advance s i c (.proceed i choice) (c.source.givenUp s.broker) s.scheduler
        { c with phase := .brokeDown } []
  | committed {r : Record} {ok : Bool} {b : Broker} {σ : Source} (choice : Choice)
      (phase : c.phase = .committing r) (takes : c.source.Takes s.broker r ok b σ) :
      Advance s i c (.proceed i choice) b s.scheduler
        { c with source := σ, phase := .polling s.now } [⟨s.now, some i, .committed r ok⟩]

variable {s s' t : System} {i : Nat} {c c' : Consumer} {a : Action} {choice : Choice}

theorem put_nil (b : Broker) (i : Nat) (c : Consumer) (scheduler : Scheduler) :
    s.put b i c [] scheduler
      = { s with broker := b, scheduler := scheduler, consumers := s.consumers.set i c } := by
  unfold put
  rw [List.append_nil]

/-- The others stay where they are. -/
theorem getElem?_put {j : Nat} (here : s.consumers[i]? = some c) {b : Broker}
    {entries : List JournalEntry} {scheduler : Scheduler} :
    (s.put b i c' entries scheduler).consumers[j]? = if i = j then some c' else s.consumers[j]? := by
  show (s.consumers.set i c')[j]? = _
  rw [List.getElem?_set]
  by_cases hij : i = j
  · rw [if_pos hij, if_pos hij, if_pos (List.getElem?_eq_some_iff.1 here).1]
  · rw [if_neg hij, if_neg hij]

theorem getElem?_put_self (here : s.consumers[i]? = some c) {b : Broker}
    {entries : List JournalEntry} {scheduler : Scheduler} :
    (s.put b i c' entries scheduler).consumers[i]? = some c' := by
  rw [getElem?_put here, if_pos rfl]

theorem setPhase_eq (s : System) (i : Nat) (c : Consumer) (p : Phase) :
    s.setPhase i c p = s.put s.broker i { c with phase := p } [] s.scheduler := by
  rw [put_nil]
  rfl

/-- To finish is to give the source up. -/
theorem finish_eq (s : System) (i : Nat) (c : Consumer) (p : Phase) :
    s.finish i c p = s.put (c.source.givenUp s.broker) i { c with phase := p } [] s.scheduler := by
  have hrelease : s.release c = { s with broker := c.source.givenUp s.broker } := by
    unfold release
    cases c.source with
    | subscription id => rfl
    | feed events commits => rfl
  rw [put_nil]
  unfold finish
  rw [hrelease]
  rfl

/-- A final phase gives the source up, and no other does. -/
theorem goTo_eq (s : System) (i : Nat) (c : Consumer) (p : Phase) :
    s.goTo i c p = s.put (c.source.brokerAt p s.broker) i { c with phase := p } [] s.scheduler := by
  unfold goTo Source.brokerAt
  split
  · exact s.finish_eq i c p
  · exact s.setPhase_eq i c p

/-- A consumer goes on with what its source gave. -/
theorem goTo_afterPoll {since : Nat} {polled : Polled} {b : Broker} {σ : Source} (i : Nat)
    (gives : c.source.Gives s.now since s.broker polled b σ) :
    ({ s with broker := b } : System).goTo i { c with source := σ } (Consumer.afterPoll s.now polled)
      = s.put b i { c with source := σ, phase := Consumer.afterPoll s.now polled } [] s.scheduler := by
  rw [goTo_eq]
  exact congrArg (fun b => s.put b i _ [] s.scheduler) gives.brokerAt

/-- A consumer waits for the activation that it asks for. -/
theorem setPhase_scheduled (s : System) (i : Nat) (c : Consumer) (r : Record) (delay : Nat) :
    ({ s with scheduler := (s.scheduler.schedule s.now delay c.owner).2 } : System).setPhase i c
        (.holding r (s.scheduler.schedule s.now delay c.owner).1)
      = s.put s.broker i { c with phase := .holding r s.scheduler.nextId } []
          (s.scheduler.schedule s.now delay c.owner).2 := by
  rw [setPhase_eq, Scheduler.schedule_fst]
  rfl

/-- A consumer goes on with its delivery. -/
theorem setPhase_moved {stage : Stage} {entries : List JournalEntry} (i : Nat) (c : Consumer)
    (p : Phase)
    (left : stage = { s.toStage with broker := stage.broker, journal := s.journal ++ entries }) :
    (s.setStage stage).setPhase i c p
      = s.put stage.broker i { c with phase := p } entries s.scheduler := by
  rw [left]
  rfl

/-- A consumer notes how its delivery ended. -/
theorem goTo_noted (s : System) (i : Nat) (c : Consumer) (r : Record)
    (result : Except Error Outcome) :
    (s.setStage (s.note (some i) [.concluded r result])).goTo i c (Consumer.afterDelivery r result)
      = s.put (c.source.brokerAt (Consumer.afterDelivery r result) s.broker) i
          { c with phase := Consumer.afterDelivery r result } [⟨s.now, some i, .concluded r result⟩]
          s.scheduler := by
  rw [goTo_eq, put_nil]
  rfl

/-- **What a poll gives.** -/
theorem of_poll? {since : Nat} {polled : Polled} (h : s.poll? c since = some (polled, t, c')) :
    ∃ b σ, c.source.Gives s.now since s.broker polled b σ
      ∧ t = { s with broker := b } ∧ c' = { c with source := σ } := by
  have hc : ∀ {σ : Source}, c.source = σ → c = { c with source := σ } := by
    rintro _ rfl
    rfl
  unfold poll? at h
  split at h
  · rename_i id source
    split at h
    · rename_i received
      cases h
      refine ⟨_, .subscription id, ?_, rfl, hc source⟩
      rw [source]
      exact .inbox received
    · cases h
  · cases h
  · rename_i e rest commits source
    split at h
    · rename_i ready
      cases h
      refine ⟨s.broker, .feed rest commits, ?_, rfl, rfl⟩
      rw [source]
      exact .event ready
    · cases h

/-- What a source gives is what a poll answers. -/
theorem poll?_of_gives {since : Nat} {polled : Polled} {b : Broker} {σ : Source}
    (gives : c.source.Gives s.now since s.broker polled b σ) :
    s.poll? c since = some (polled, { s with broker := b }, { c with source := σ }) := by
  obtain ⟨listener, handler, group, source, phase, stopping, handle⟩ := c
  cases gives with
  | inbox received => simp only [poll?, received]
  | event ready => exact if_pos ready

/-- **What becomes of a commit.** -/
theorem of_commitAt {r : Record} {ok : Bool} (h : s.commitAt c r = (ok, t, c')) :
    ∃ b σ, c.source.Takes s.broker r ok b σ
      ∧ t = { s with broker := b } ∧ c' = { c with source := σ } := by
  have hc : ∀ {σ : Source}, c.source = σ → c = { c with source := σ } := by
    rintro _ rfl
    rfl
  unfold commitAt at h
  split at h
  · rename_i id source
    cases h
    refine ⟨_, .subscription id, ?_, rfl, hc source⟩
    rw [source]
    exact .offset id
  · rename_i events source
    cases h
    refine ⟨s.broker, .feed events [], ?_, rfl, rfl⟩
    rw [source]
    exact .silent events
  · rename_i events ok' rest source
    cases h
    refine ⟨s.broker, .feed events rest, ?_, rfl, rfl⟩
    rw [source]
    exact .told events _ rest

/-- What a source takes is what becomes of a commit. -/
theorem commitAt_of_takes {r : Record} {ok : Bool} {b : Broker} {σ : Source}
    (takes : c.source.Takes s.broker r ok b σ) :
    s.commitAt c r = (ok, { s with broker := b }, { c with source := σ }) := by
  obtain ⟨listener, handler, group, source, phase, stopping, handle⟩ := c
  cases takes with
  | offset id => rfl
  | told events ok rest => rfl
  | silent events => rfl

/-- `s.Advances i c a s'`: the consumer advances, and nothing else happens. -/
def Advances (s : System) (i : Nat) (c : Consumer) (a : Action) (s' : System) : Prop :=
  ∃ b x c' entries, s.Advance i c a b x c' entries ∧ s' = s.put b i c' entries x

/-- A consumer whose delivery goes on. -/
theorem Advances.of_delivery {r : Record} {d : Delivery} (phase : c.phase = .delivering r d)
    (h : ((d.step? (some i) c.listener c.handler r choice s.toStage).bind fun p =>
      some ((s.setStage p.1).setPhase i c (.delivering r p.2))) = some s') :
    s.Advances i c (.proceed i choice) s' := by
  obtain ⟨⟨stage, d'⟩, htaken, heq⟩ := Option.bind_eq_some_iff.1 h
  cases heq
  have move := Delivery.Move.of_step htaken
  obtain ⟨entries, hplain, huncommitted, hstage⟩ := Move.stage_eq move
  exact ⟨stage.broker, s.scheduler, _, entries, .moved phase move hstage hplain huncommitted,
    setPhase_moved i c _ hstage⟩

/-- **What a consumer does that goes on.** -/
theorem Advances.of_proceed (here : s.consumers[i]? = some c)
    (h : s.proceed? i choice = some s') : s.Advances i c (.proceed i choice) s' := by
  -- one case for each phase, as in the definition of the step
  unfold proceed? at h
  rw [here] at h
  simp only [Option.bind_eq_bind, Option.bind_some] at h
  cases phase : c.phase with
  | polling since =>
      simp only [phase] at h
      obtain ⟨⟨polled, t, c'⟩, hpoll, heq⟩ := Option.bind_eq_some_iff.1 h
      obtain ⟨b, σ, gives, rfl, rfl⟩ := of_poll? hpoll
      cases heq
      exact ⟨b, s.scheduler, _, [], .polled choice phase gives, goTo_afterPoll i gives⟩
  | received r =>
      simp only [phase] at h
      cases hdue : r.due? with
      | none =>
          rw [hdue] at h
          cases h
          exact ⟨_, _, _, [], .begun choice phase hdue, s.setPhase_eq i c _⟩
      | some due =>
          rw [hdue] at h
          cases h
          exact ⟨_, _, _, [], .asked choice phase hdue, s.setPhase_scheduled i c r _⟩
  | pausing wake =>
      simp only [phase] at h
      split at h
      · rename_i awake
        cases h
        exact ⟨_, _, _, [], .resumed choice phase awake, s.setPhase_eq i c _⟩
      · cases h
  | holding r id =>
      simp only [phase] at h
      split at h
      · rename_i outcome
        cases h
        exact ⟨_, _, _, [], .fired choice phase outcome, s.setPhase_eq i c _⟩
      · rename_i outcome
        cases h
        exact ⟨_, _, _, [], .cancelled choice phase outcome, s.finish_eq i c _⟩
      · cases h
  | delivering r d =>
      cases d with
      | ended result =>
          simp only [phase] at h
          cases h
          exact ⟨_, _, _, _, .concluded choice phase, s.goTo_noted i c r result⟩
      | brokeDown =>
          simp only [phase] at h
          cases h
          exact ⟨_, _, _, [], .brokeDown choice phase, s.finish_eq i c _⟩
      | calling attempt =>
          simp only [phase] at h
          exact .of_delivery phase h
      | handling attempt result wake =>
          simp only [phase] at h
          exact .of_delivery phase h
      | resting attempt wake =>
          simp only [phase] at h
          exact .of_delivery phase h
      | publishing out outcome failures wake =>
          simp only [phase] at h
          exact .of_delivery phase h
  | committing r =>
      simp only [phase] at h
      cases h
      cases hcommit : s.commitAt c r with
      | mk ok rest =>
          obtain ⟨t, c'⟩ := rest
          obtain ⟨b, σ, takes, rfl, rfl⟩ := of_commitAt hcommit
          exact ⟨b, s.scheduler, _, _, .committed choice phase takes, rfl⟩
  | ended result =>
      simp only [phase] at h
      cases h
  | brokeDown =>
      simp only [phase] at h
      cases h

/-- **What a consumer does that notices a stop.** -/
theorem Advances.of_notice (here : s.consumers[i]? = some c) (h : s.notice? i = some s') :
    s.Advances i c (.notice i) s' := by
  have hended : s.finish i c (.ended (.ok ())) = s' → c.stopping = true → c.phase.waits = true →
      s.Advances i c (.notice i) s' := by
    rintro rfl told waits
    exact ⟨_, _, _, [], .noticed told waits, s.finish_eq i c _⟩
  unfold notice? at h
  rw [here] at h
  simp only [Option.bind_eq_bind, Option.bind_some] at h
  split at h
  · rename_i told
    split at h
    · rename_i phase
      exact hended (Option.some.inj h) told (by rw [phase]; rfl)
    · rename_i phase
      exact hended (Option.some.inj h) told (by rw [phase]; rfl)
    · rename_i phase
      exact hended (Option.some.inj h) told (by rw [phase]; rfl)
    · cases h
  · cases h

/-- A delivery that moves is one way for its consumer to go on. -/
theorem Advance.of_move {r : Record} {d d' : Delivery} {stage : Stage}
    (phase : c.phase = .delivering r d)
    (move : Delivery.Move (some i) c.listener c.handler r choice s.toStage d stage d') :
    ∃ entries, s.Advance i c (.proceed i choice) stage.broker s.scheduler
      { c with phase := .delivering r d' } entries := by
  obtain ⟨entries, hplain, huncommitted, hstage⟩ := Move.stage_eq move
  exact ⟨entries, .moved phase move hstage hplain huncommitted⟩

/-- **Whatever a consumer may do, it can do.** -/
theorem Advance.step? {b : Broker} {x : Scheduler} {entries : List JournalEntry}
    (advance : s.Advance i c a b x c' entries) (here : s.consumers[i]? = some c) :
    s.step? a = some (s.put b i c' entries x) := by
  cases advance with
  | noticed told waits =>
      show s.notice? i = _
      rw [← finish_eq]
      unfold notice?
      simp only [here, Option.bind_eq_bind, Option.bind_some, if_pos told]
      cases phase : c.phase with
      | polling since => rfl
      | pausing wake => rfl
      | holding r id => rfl
      | _ =>
          rw [phase] at waits
          cases waits
  | polled choice phase gives =>
      show s.proceed? i choice = _
      rw [← goTo_afterPoll i gives]
      unfold proceed?
      simp only [here, Option.bind_eq_bind, Option.bind_some, phase, poll?_of_gives gives]
      rfl
  | begun choice phase plain =>
      show s.proceed? i choice = _
      rw [← setPhase_eq]
      unfold proceed?
      simp only [here, Option.bind_eq_bind, Option.bind_some, phase, plain]
      rfl
  | asked choice phase delayed =>
      show s.proceed? i choice = _
      rw [← setPhase_scheduled]
      unfold proceed?
      simp only [here, Option.bind_eq_bind, Option.bind_some, phase, delayed]
      rfl
  | resumed choice phase awake =>
      show s.proceed? i choice = _
      rw [← setPhase_eq]
      unfold proceed?
      simp only [here, Option.bind_eq_bind, Option.bind_some, phase, if_pos awake]
  | fired choice phase outcome =>
      show s.proceed? i choice = _
      rw [← setPhase_eq]
      unfold proceed?
      simp only [here, Option.bind_eq_bind, Option.bind_some, phase, outcome]
      rfl
  | cancelled choice phase outcome =>
      show s.proceed? i choice = _
      rw [← finish_eq]
      unfold proceed?
      simp only [here, Option.bind_eq_bind, Option.bind_some, phase, outcome]
      rfl
  | @moved r d d' choice stage _ phase move left plain uncommitted =>
      show s.proceed? i choice = _
      rw [← setPhase_moved i c _ left]
      unfold proceed?
      simp only [here, Option.bind_eq_bind, Option.bind_some, phase]
      have htaken := move.step?
      cases d with
      | ended result => cases htaken
      | brokeDown => cases htaken
      | _ =>
          simp only [htaken]
          rfl
  | @concluded r result choice phase =>
      show s.proceed? i choice = _
      rw [← goTo_noted]
      unfold proceed?
      simp only [here, Option.bind_eq_bind, Option.bind_some, phase]
      rfl
  | brokeDown choice phase =>
      show s.proceed? i choice = _
      rw [← finish_eq]
      unfold proceed?
      simp only [here, Option.bind_eq_bind, Option.bind_some, phase]
      rfl
  | committed choice phase takes =>
      show s.proceed? i choice = _
      unfold proceed?
      simp only [here, Option.bind_eq_bind, Option.bind_some, phase, commitAt_of_takes takes]
      rfl

/-! ## §4. What any action does. -/

/-- `Effect s a s'`: what the action `a` makes of `s`, and under which condition it is possible. -/
inductive Effect (s : System) : Action → System → Prop where
  | published (r : OutgoingRecord) :
      Effect s (.publish r) { s with broker := (s.broker.publish r s.clock.wall).2 }
  | failing (count : Nat) :
      Effect s (.failNext count) { s with broker := s.broker.failNext count }
  | created (name : String) (layout : Layout) :
      Effect s (.createTopic name layout) { s with broker := s.broker.createTopic name layout }
  | registered (context : Context) :
      Effect s (.register context) { s with registry := s.registry.register context }
  | started (l : Listener) (h : Handler) (group : String) {s' : System}
      (ok : s.start l h group = .ok s') : Effect s (.start l h group) s'
  | fed (l : Listener) (h : Handler) (group : String) (events : List FeedEvent)
      (commits : List Bool) :
      Effect s (.startFeed l h group events commits) (s.startFeed l h group events commits)
  /-- A consumer is told to stop. -/
  | told {i : Nat} {c : Consumer} (here : s.consumers[i]? = some c) :
      Effect s (.cancelToken i) (s.setConsumer i { c with stopping := true })
  | cancelling {i : Nat} {c : Consumer} (here : s.consumers[i]? = some c) :
      Effect s (.cancelOwner i) { s with scheduler := s.scheduler.cancelOwner c.owner }
  | taken {i : Nat} {c : Consumer} (here : s.consumers[i]? = some c) (kept : c.handle = .kept) :
      Effect s (.takeHandle i) (s.setConsumer i { c with handle := .taken })
  /-- Whoever has the handle is told how the consumer ended. -/
  | collected {i : Nat} {c : Consumer} {verdict : Except Error Unit}
      (here : s.consumers[i]? = some c) (taken : c.handle = .taken)
      (ended : c.verdict? = some verdict) :
      Effect s (.collect i) (s.setConsumer i { c with handle := .spent })
  /-- A consumer goes on, or notices a stop. -/
  | advanced {a : Action} {i : Nat} {c c' : Consumer} {b : Broker} {x : Scheduler}
      {entries : List JournalEntry} (here : s.consumers[i]? = some c)
      (advance : s.Advance i c a b x c' entries) : Effect s a (s.put b i c' entries x)
  | worked {x : Scheduler} (work : s.scheduler.work? s.now = some x) :
      Effect s .work { s with scheduler := x }
  | fired {x : Scheduler} (fire : s.scheduler.fire? s.now = some x) :
      Effect s .fire { s with scheduler := x }
  | shutdown : Effect s .shutdown { s with scheduler := s.scheduler.shutdown }
  | halted {x : Scheduler} (halt : s.scheduler.halt? s.now = some x) :
      Effect s .halt { s with scheduler := x }
  | waited (elapsed : Nat) : Effect s (.wait elapsed) { s with clock := s.clock.moveTo elapsed }

theorem Effect.of_advances (here : s.consumers[i]? = some c) (h : s.Advances i c a s') :
    Effect s a s' := by
  obtain ⟨b, x, c', entries, advance, rfl⟩ := h
  exact .advanced here advance

/-- To collect is to find a consumer that has ended, with its handle taken. -/
theorem Effect.of_collect (h : (s.collect? i).map Prod.snd = some s') :
    Effect s (.collect i) s' := by
  obtain ⟨⟨verdict, t⟩, hcollect, rfl⟩ := Option.map_eq_some_iff.1 h
  obtain ⟨c, here, hrest⟩ := Option.bind_eq_some_iff.1 hcollect
  split at hrest
  · rename_i taken
    obtain ⟨verdict', hverdict, heq⟩ := Option.map_eq_some_iff.1 hrest
    cases heq
    exact .collected here taken hverdict
  · cases hrest

/-- **Every step has such an effect.** -/
theorem Effect.of_step (h : s.step? a = some s') : Effect s a s' := by
  cases a with
  | publish r =>
      cases h
      exact .published r
  | failNext count =>
      cases h
      exact .failing count
  | createTopic name layout =>
      cases h
      exact .created name layout
  | register context =>
      cases h
      exact .registered context
  | start l handler group =>
      have h : (s.start l handler group).toOption = some s' := h
      cases hstart : s.start l handler group with
      | error e =>
          rw [hstart] at h
          cases h
      | ok t =>
          rw [hstart] at h
          cases h
          exact .started l handler group hstart
  | startFeed l handler group events commits =>
      cases h
      exact .fed l handler group events commits
  | cancelToken i =>
      obtain ⟨c, here, heq⟩ := Option.bind_eq_some_iff.1 h
      cases heq
      exact .told here
  | cancelOwner i =>
      obtain ⟨c, here, heq⟩ := Option.bind_eq_some_iff.1 h
      cases heq
      exact .cancelling here
  | takeHandle i =>
      obtain ⟨c, here, hrest⟩ := Option.bind_eq_some_iff.1 h
      split at hrest
      · rename_i kept
        cases hrest
        exact .taken here kept
      · cases hrest
  | collect i => exact .of_collect h
  | notice i =>
      obtain ⟨c, here, _⟩ := Option.bind_eq_some_iff.1 h
      exact .of_advances here (.of_notice here h)
  | proceed i choice =>
      obtain ⟨c, here, _⟩ := Option.bind_eq_some_iff.1 h
      exact .of_advances here (.of_proceed here h)
  | work =>
      obtain ⟨x, hwork, rfl⟩ := Option.map_eq_some_iff.1 h
      exact .worked hwork
  | fire =>
      obtain ⟨x, hfire, rfl⟩ := Option.map_eq_some_iff.1 h
      exact .fired hfire
  | shutdown =>
      cases h
      exact .shutdown
  | halt =>
      obtain ⟨x, hhalt, rfl⟩ := Option.map_eq_some_iff.1 h
      exact .halted hhalt
  | wait elapsed =>
      cases h
      exact .waited elapsed

/-- What a system is in which a consumer of the broker was started. -/
theorem of_start {l : Listener} {handler : Handler} {group : String}
    (hok : s.start l handler group = .ok s') :
    s' = { s with
      broker := (s.broker.subscribe l.node.name group).2
      consumers := s.consumers ++ [⟨l, handler, group, .subscription s.broker.nextSubscription,
        .polling s.now, false, .kept⟩] } := by
  have hnext := (Broker.alike_createTopic s.broker l.node.name {}).nextSubscription
  unfold start at hok
  split at hok
  · cases hok
  · rw [← hnext]
    cases hok
    rfl

end System

end Redelivery
