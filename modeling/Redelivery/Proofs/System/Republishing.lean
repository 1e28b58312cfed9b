/-
  Redelivery.Proofs.System.Republishing
  ─────────────────────────────────────
  **How often a copy is offered to a broker that refuses it.**

  With `f` publishes set to fail, nobody else publishing, and at most `m`
  retries, there are two ends and no third one:

      f ≤ m    f refusals, then one record on one log       ended (ok …)
      m < f    m + 1 refusals, and every log as it was      ended (fatal …)

  In the first case no failure is left, in the second `f - (m + 1)` are, and
  the consumer ends with that error and commits nothing.  One invariant
  carries both: as long as the copy is offered,

      failures so far + failures left = f,   failures so far ≤ m.
-/
import Redelivery.Proofs.Delivery.Trials

namespace Redelivery

/-! ## §1. Publishes that are made to fail. -/

namespace Broker

/-- Nobody publishes, and how publishing goes on is the same. -/
structure Calm (b b' : Broker) : Prop where
  failing : b'.failing = b.failing
  strict : b'.strict = b.strict
  records : ∀ topic, b'.records topic = b.records topic

variable {b b' : Broker} {r : OutgoingRecord}

theorem Calm.refl (b : Broker) : b.Calm b := ⟨rfl, rfl, fun _ => rfl⟩

theorem Calm.trans {b'' : Broker} (h : b.Calm b') (h' : b'.Calm b'') : b.Calm b'' where
  failing := h'.failing.trans h.failing
  strict := h'.strict.trans h.strict
  records topic := (h'.records topic).trans (h.records topic)

/-- The answer to a publish that was made to fail. -/
def madeToFail (topic : String) : BusError :=
  .publish ("Simulated publish failure to '" ++ topic ++ "'")

theorem publish_of_failing (h : 0 < b.failing) (r : OutgoingRecord) (now : Int64) :
    b.publish r now = (.error (madeToFail r.topic), { b with failing := b.failing - 1 }) :=
  if_pos h

theorem publish_of_lenient (hnone : b.failing = 0) (hlenient : b.strict = false)
    (r : OutgoingRecord) (now : Int64) : (b.publish r now).1 = .ok () := by
  unfold publish
  rw [hnone, hlenient, if_neg (Nat.lt_irrefl 0), if_neg (by simp)]

/-- Publishing never makes a broker strict, and only a failure uses up one that was asked for. -/
theorem of_publish_ok {now : Int64} (h : (b.publish r now).1 = .ok ()) :
    (b.publish r now).2.failing = b.failing ∧ (b.publish r now).2.strict = b.strict := by
  rw [publish_of_ok h]
  unfold append createTopic
  split <;> exact ⟨rfl, rfl⟩

/-- A lenient broker refuses only what it was made to refuse. -/
theorem of_refusal {now : Int64} {e : BusError} (hlenient : b.strict = false)
    (h : b.publish r now = (.error e, b')) :
    0 < b.failing ∧ e = madeToFail r.topic ∧ b' = { b with failing := b.failing - 1 } := by
  rcases Nat.eq_zero_or_pos b.failing with hnone | hsome
  · have hok := publish_of_lenient hnone hlenient r now
    rw [h] at hok
    cases hok
  · rw [publish_of_failing hsome] at h
    cases h
    exact ⟨hsome, rfl, rfl⟩

end Broker

namespace Delivery

/-! ## §2. The copy is offered time after time. -/

/-- Nothing happens around a delivery that keeps it from publishing, or lets others publish. -/
structure Uncontested (l : Listener) (pace : Pace) (d : Delivery) (s t : Stage) : Prop
    extends Around l pace d s t where
  broker : s.broker.Calm t.broker

/-- `Settled l b₀ b copy tries result`: the copy was offered so often to the broker `b₀`, which is `b`
now, and the delivery has ended so. -/
inductive Settled (l : Listener) (b₀ b : Broker) (copy : OutgoingRecord) (tries : Nat) :
    Except Error Outcome → Prop where
  | stored (outcome : Outcome) (now : Int64) (enough : b₀.failing ≤ l.republish.maxTimes.toNat)
      (tried : tries = b₀.failing + 1) (used : b.failing = 0)
      (records : ∀ topic, b.records topic = b₀.records topic
        ++ if copy.topic = topic then [Broker.stored copy (b₀.records copy.topic).length now] else []) :
      Settled l b₀ b copy tries (.ok outcome)
  | refused (tooFew : l.republish.maxTimes.toNat < b₀.failing)
      (tried : tries = l.republish.maxTimes.toNat + 1)
      (used : b.failing = b₀.failing - (l.republish.maxTimes.toNat + 1))
      (records : ∀ topic, b.records topic = b₀.records topic) :
      Settled l b₀ b copy tries
        (.error (.fatal l.node.name (.notRepublished copy.topic (Broker.madeToFail copy.topic))))

/-- How offers and failures stand, from the broker `b₀` to the broker `b`. -/
def Reckons (l : Listener) (b₀ b : Broker) (offers : List Offer) : Delivery → Prop
  | .calling _ | .handling _ _ _ | .resting _ _ | .brokeDown => offers = [] ∧ b₀.Calm b
  | .publishing _ _ failures _ =>
      offers.length = failures ∧ failures ≤ l.republish.maxTimes.toNat
        ∧ failures + b.failing = b₀.failing ∧ b.strict = b₀.strict
        ∧ ∀ topic, b.records topic = b₀.records topic
  | .ended result => offers = [] ∧ b₀.Calm b
      ∨ ∃ o, offers.getLast? = some o ∧ Settled l b₀ b o.copy offers.length result

variable {pace : Pace} {l : Listener} {h : Handler} {r : Record} {s₀ s t s' : Stage}
  {trials : List Trial} {offers : List Offer} {d d' : Delivery} {consumer : Option Nat}
  {choice : Choice} {b₀ b b' : Broker} {chain : Chain} {p : Nat}

/-- What happens around a delivery changes none of this. -/
theorem Reckons.calm (reckons : Reckons l b₀ b offers d) (open₀ : d.isOver = false)
    (calm : b.Calm b') : Reckons l b₀ b' offers d := by
  cases d with
  | calling attempt => exact ⟨reckons.1, reckons.2.trans calm⟩
  | handling attempt result wake => exact ⟨reckons.1, reckons.2.trans calm⟩
  | resting attempt wake => exact ⟨reckons.1, reckons.2.trans calm⟩
  | publishing out outcome failures wake =>
      obtain ⟨hlength, hmost, hsum, hstrict, hrecords⟩ := reckons
      exact ⟨hlength, hmost, by rw [calm.failing]; exact hsum, calm.strict.trans hstrict,
        fun topic => (calm.records topic).trans (hrecords topic)⟩
  | ended result => cases open₀
  | brokeDown => cases open₀

/-- **One step keeps the reckoning.** -/
theorem Reckons.move (reckons : Reckons l b₀ t.broker offers d) (lenient : b₀.strict = false)
    (move : Move consumer l h r choice t d s' d') :
    Reckons l b₀ s'.broker (offers ++ d.offers t) d' := by
  cases move with
  | called attempt =>
      obtain ⟨rfl, hcalm⟩ := reckons
      cases h <;> exact ⟨rfl, hcalm⟩
  | succeeded due =>
      obtain ⟨rfl, hcalm⟩ := reckons
      exact Or.inl ⟨rfl, hcalm⟩
  | brokeDown due =>
      obtain ⟨rfl, hcalm⟩ := reckons
      exact ⟨rfl, hcalm⟩
  | again due verdict =>
      obtain ⟨rfl, hcalm⟩ := reckons
      exact ⟨rfl, hcalm⟩
  | finished due verdict =>
      obtain ⟨rfl, hcalm⟩ := reckons
      exact Or.inl ⟨rfl, hcalm⟩
  | republishing due verdict =>
      obtain ⟨rfl, hcalm⟩ := reckons
      exact ⟨rfl, Nat.zero_le _, by rw [Nat.zero_add]; exact hcalm.failing, hcalm.strict,
        hcalm.records⟩
  | rested due =>
      obtain ⟨rfl, hcalm⟩ := reckons
      exact ⟨rfl, hcalm⟩
  | @published out outcome failures wake broker due answer =>
      obtain ⟨hlength, hmost, hsum, _, hrecords⟩ := reckons
      have hok : (t.broker.publish out t.clock.wall).1 = .ok () := congrArg Prod.fst answer
      have hbroker : (t.broker.publish out t.clock.wall).2 = broker := congrArg Prod.snd answer
      -- a publish that succeeds was not made to fail
      have hnone : t.broker.failing = 0 := by
        by_contra hsome
        rw [Broker.publish_of_failing (Nat.pos_of_ne_zero hsome)] at hok
        cases hok
      rw [offers_publishing answer]
      refine Or.inr ⟨_, List.getLast?_concat, .stored outcome t.clock.wall (by omega) ?_ ?_ ?_⟩
      · rw [List.length_append, List.length_singleton]
        omega
      · rw [← hbroker, (Broker.of_publish_ok hok).1]
        exact hnone
      · intro topic
        rw [← hbroker, Broker.records_publish hok, hrecords topic, hrecords out.topic]
  | @refused out outcome failures wake pause broker e due answer left =>
      obtain ⟨hlength, hmost, hsum, hstrict, hrecords⟩ := reckons
      have hlt := RepublishPolicy.lt_of_pause left
      obtain ⟨hsome, _, rfl⟩ := Broker.of_refusal (hstrict.trans lenient) answer
      refine ⟨?_, hlt, ?_, hstrict, hrecords⟩
      · rw [offers_publishing answer, List.length_append, hlength]
        rfl
      · show failures + 1 + (t.broker.failing - 1) = _
        omega
  | @gaveUp out outcome failures wake broker e due answer left =>
      obtain ⟨hlength, hmost, hsum, hstrict, hrecords⟩ := reckons
      have hge := RepublishPolicy.le_of_no_pause left
      obtain ⟨hsome, rfl, rfl⟩ := Broker.of_refusal (hstrict.trans lenient) answer
      rw [offers_publishing answer]
      refine Or.inr ⟨_, List.getLast?_concat, .refused (by omega) ?_ ?_ hrecords⟩
      · rw [List.length_append, hlength, List.length_singleton]
        omega
      · show t.broker.failing - 1 = _
        omega

/-- Such a session is one of those in which anything may happen to the broker. -/
theorem Session.around (session : Session (Uncontested l pace) l h r s₀ trials offers s d) :
    Session (Around l pace) l h r s₀ trials offers s d :=
  session.mono fun _ _ _ between => between.toAround

theorem not_isOver_of_step (taken : d.step? consumer l h r choice s = some (s', d')) :
    d.isOver = false := by
  cases d with
  | ended result => cases taken
  | brokeDown => cases taken
  | _ => rfl

/-- **The reckoning of a session.** -/
theorem Session.reckons (lenient : s₀.broker.strict = false)
    (session : Session (Uncontested l pace) l h r s₀ trials offers s d) :
    Reckons l s₀.broker s.broker offers d := by
  induction session with
  | start => exact ⟨rfl, .refl _⟩
  | step consumer choice _ between taken ih =>
      exact (ih.calm (not_isOver_of_step taken) between.broker).move lenient (Move.of_step taken)

/-- A session that ends with an error ends its consumer. -/
theorem Session.fatal {around : Delivery → Stage → Stage → Prop}
    (session : Session around l h r s₀ trials offers s d) : d.Fatal := by
  cases session with
  | start => exact nofun
  | step consumer choice _ between taken => exact (Move.of_step taken).fatal

/-! ## §3. The two ends. -/

/-- **What has become of a copy** that goes to `next` after the last trial `x`, offered `tries` times
to the broker `b₀`, which is `b` now. -/
structure Bounded (l : Listener) (r : Record) (x : Trial) (f : Failure) (next : Destination)
    (b₀ b : Broker) (tries : Nat) (result : Except Error Outcome) : Prop where
  /-- It is on its topic, once, and no other log has changed. -/
  stored : b₀.failing ≤ l.republish.maxTimes.toNat →
    result = .ok (Listener.outcomeOf next) ∧ tries = b₀.failing + 1 ∧ b.failing = 0
      ∧ ∃ now, ∀ topic, b.records topic = b₀.records topic ++ if next.name = topic then
          [Broker.stored (l.copyFor r f x.attempt x.clock.wall next) (b₀.records next.name).length now]
        else []
  /-- It was refused as often as it may be offered, and no log has changed. -/
  refused : l.republish.maxTimes.toNat < b₀.failing →
    result = .error (.fatal l.node.name (.notRepublished next.name (Broker.madeToFail next.name)))
      ∧ tries = l.republish.maxTimes.toNat + 1
      ∧ b.failing = b₀.failing - (l.republish.maxTimes.toNat + 1)
      ∧ ∀ topic, b.records topic = b₀.records topic

/-- The last offer of a session that failed is the copy for the next node, unless that has no topic. -/
theorem Conclusion.of_failed {x : Trial} {f : Failure} {next : Destination} {registry : Registry}
    {result : Except Error Outcome} (conclusion : Conclusion l registry r x offers result)
    (failed : x.result = .failed f)
    (routed : l.routed registry x.clock.wall r x.attempt f = .ok next)
    (hasTopic : next.hasTopic = true) :
    (∃ o, offers.getLast? = some o ∧ o.copy = l.copyFor r f x.attempt x.clock.wall next)
      ∧ ∀ outcome, result = .ok outcome → outcome = Listener.outcomeOf next := by
  cases conclusion with
  | processed succeeded => cases failed.symm.trans succeeded
  | stranded failed' routed' =>
      cases failed.symm.trans failed'
      cases routed.symm.trans routed'
  | misplaced failed' routed' role =>
      cases failed.symm.trans failed'
      cases routed.symm.trans routed'
  | dropped failed' routed' role =>
      cases failed.symm.trans failed'
      cases routed.symm.trans routed'
      unfold Destination.hasTopic Destination.isNoOps at hasTopic
      rw [role] at hasTopic
      cases hasTopic
  | forwarded errors failed' routed' role =>
      cases failed.symm.trans failed'
      cases routed.symm.trans routed'
      refine ⟨⟨_, List.getLast?_concat, rfl⟩, ?_⟩
      rintro outcome ⟨⟩
      exact (Listener.outcomeOf_of_retry role).symm
  | deadLettered errors failed' routed' role =>
      cases failed.symm.trans failed'
      cases routed.symm.trans routed'
      refine ⟨⟨_, List.getLast?_concat, rfl⟩, ?_⟩
      rintro outcome ⟨⟩
      exact (Listener.outcomeOf_of_deadLetter role).symm
  | refused errors e failed' routed' role =>
      cases failed.symm.trans failed'
      cases routed.symm.trans routed'
      rw [Offer.refusals_concat]
      exact ⟨⟨_, List.getLast?_concat, rfl⟩, nofun⟩

/-- A record that is neither processed nor dropped has failed at its last trial, and goes to a node with
a topic. -/
theorem Conclusion.of_copied {x : Trial} {registry : Registry} {result : Except Error Outcome}
    (conclusion : Conclusion l registry r x offers result) (served : l.node.role ≠ .noOps)
    (unprocessed : result ≠ .ok .processed) (kept : result ≠ .ok .dropped) :
    ∃ f next, x.result = .failed f
      ∧ l.routed registry x.clock.wall r x.attempt f = .ok next ∧ next.hasTopic = true := by
  have htopic : ∀ next : Destination, next.role = .retry ∨ next.role = .deadLetter →
      next.hasTopic = true := by
    rintro next (hrole | hrole)
    all_goals
      unfold Destination.hasTopic Destination.isNoOps
      rw [hrole]
      rfl
  cases conclusion with
  | processed succeeded => exact absurd rfl unprocessed
  | stranded failed routed => exact absurd rfl kept
  | misplaced failed routed role => exact absurd role served
  | dropped failed routed role => exact absurd rfl kept
  | forwarded errors failed routed role => exact ⟨_, _, failed, routed, htopic _ (Or.inl role)⟩
  | deadLettered errors failed routed role => exact ⟨_, _, failed, routed, htopic _ (Or.inr role)⟩
  | refused errors e failed routed role => exact ⟨_, _, failed, routed, htopic _ role⟩

/-- **Republishing is bounded.** -/
theorem Session.bounded {x : Trial} {f : Failure} {next : Destination}
    {registry : Registry} {result : Except Error Outcome} (serves : l.Serves registry chain p)
    (inForce : s₀.registry.chain? l.node.source = some chain) (lenient : s₀.broker.strict = false)
    (session : Session (Uncontested l pace) l h r s₀ trials offers s (.ended result))
    (last : trials.getLast? = some x) (failed : x.result = .failed f)
    (routed : l.routed registry x.clock.wall r x.attempt f = .ok next)
    (hasTopic : next.hasTopic = true) :
    Bounded l r x f next s₀.broker s.broker offers.length result := by
  obtain ⟨y, hlast, conclusion⟩ :=
    session.around.tells serves (inForce.trans serves.inForce.symm)
  rw [last] at hlast
  cases hlast
  obtain ⟨⟨o, hoffer, hcopy⟩, houtcome⟩ := conclusion.of_failed failed routed hasTopic
  rcases session.reckons lenient with ⟨hnone, _⟩ | ⟨o', hoffer', settled⟩
  · rw [hnone] at hoffer
    cases hoffer
  · rw [hoffer] at hoffer'
    cases hoffer'
    rw [hcopy] at settled
    cases settled with
    | stored outcome now enough tried used records =>
        refine ⟨fun _ => ⟨by rw [houtcome outcome rfl], tried, used, now, records⟩, fun htooFew => ?_⟩
        exact absurd enough (Nat.not_le_of_lt htooFew)
    | refused tooFew tried used records =>
        refine ⟨fun henough => ?_, fun _ => ⟨rfl, tried, used, records⟩⟩
        exact absurd henough (Nat.not_le_of_lt tooFew)

end Delivery

/-- What may happen on a stage while a record of that source is delivered and nobody else publishes. -/
structure Stage.Meanwhile (source : String) (s t : Stage) : Prop where
  chain : t.registry.chain? source = s.registry.chain? source
  elapsed : s.clock.elapsed ≤ t.clock.elapsed
  broker : s.broker.Calm t.broker

theorem Stage.Meanwhile.refl (source : String) (s : Stage) : Meanwhile source s s :=
  ⟨rfl, Nat.le_refl _, .refl _⟩

theorem Stage.Meanwhile.trans {source : String} {s t u : Stage} (h : Meanwhile source s t)
    (h' : Meanwhile source t u) : Meanwhile source s u :=
  ⟨h'.chain.trans h.chain, Nat.le_trans h.elapsed h'.elapsed, h.broker.trans h'.broker⟩

theorem Stage.Meanwhile.uncontested {s t s' : Stage} {d d' : Delivery} {consumer : Option Nat}
    {l : Listener} {h : Handler} {r : Record} {choice : Choice}
    (meanwhile : Meanwhile l.node.source s t)
    (taken : d.step? consumer l h r choice t = some (s', d')) :
    Delivery.Uncontested l .any d s t where
  chain := meanwhile.chain
  time := Nat.max_le.2 ⟨meanwhile.elapsed, Delivery.awake_of_step taken⟩
  broker := meanwhile.broker

namespace System

/-! ## §4. A consumer that publishes alone. -/

/-- Systems that `s` can come to while consumer number `i` goes on and nobody else publishes, asks for
failures, or puts another chain in force for that source topic. -/
inductive Solo (source : String) (i : Nat) (s : System) : System → Prop where
  | refl : Solo source i s s
  /-- The consumer goes on. -/
  | own {t t' : System} (choice : Choice) (before : Solo source i s t)
      (taken : t.step? (.proceed i choice) = some t') : Solo source i s t'
  | other {t t' : System} {a : Action} (before : Solo source i s t)
      (foreign : ∀ choice, a ≠ .proceed i choice) (taken : t.step? a = some t')
      (chain : t'.registry.chain? source = t.registry.chain? source)
      (broker : t.broker.Calm t'.broker) : Solo source i s t'

/-- Consumer number `i` has committed nothing since. -/
def Uncommitted (i : Nat) (s₀ s : System) : Prop :=
  ∃ later, s.journal = s₀.journal ++ later
    ∧ ∀ entry ∈ later, entry.consumer = some i → entry.commit? = none

/-- Consumer number `i`, which is `c`, ends with the error `e` of its delivery and has committed nothing
since. -/
structure StopsWith (s₀ : System) (i : Nat) (r : Record) (e : Error) (s : System) (c : Consumer) :
    Prop where
  phase : c.phase = .delivering r (.ended (.error e)) ∨ c.phase = .ended (.error e)
  uncommitted : Uncommitted i s₀ s
  /-- If it has not ended yet, its next step ends it. -/
  next : ∀ choice s', s.step? (.proceed i choice) = some s' →
    ∃ c', s'.consumers[i]? = some c' ∧ c'.phase = .ended (.error e)

variable {s₀ s s' t : System} {i : Nat} {c c' : Consumer} {a : Action} {choice : Choice}
  {r : Record} {d d' : Delivery}

theorem Uncommitted.refl : Uncommitted i s₀ s₀ :=
  ⟨[], (List.append_nil _).symm, fun _ h => absurd h List.not_mem_nil⟩

/-- Only a consumer that is about to commit does so. -/
theorem Uncommitted.step (h : Uncommitted i s₀ s) (step : Step s a s')
    (here : s.consumers[i]? = some c) (idle : ∀ r, c.phase ≠ .committing r) :
    Uncommitted i s₀ s' := by
  obtain ⟨later, hlater, hnone⟩ := h
  have hgrown : ∀ entries, s'.journal = s.journal ++ entries →
      (∀ entry ∈ entries, entry.consumer = some i → entry.commit? = none) →
      Uncommitted i s₀ s' := by
    intro entries hentries hnew
    refine ⟨later ++ entries, by rw [hentries, hlater, List.append_assoc], fun entry hentry => ?_⟩
    rcases List.mem_append.1 hentry with hold | hentry
    · exact hnone entry hold
    · exact hnew entry hentry
  have hsame : s'.journal = s.journal → Uncommitted i s₀ s' := fun heq =>
    hgrown [] (heq.trans (List.append_nil _).symm) (by simp)
  cases step with
  | @advanced a j cj c' b x entries hj advance =>
      refine hgrown entries rfl fun entry hentry howner => ?_
      cases advance with
      | moved phase move left plain uncommitted => exact uncommitted entry hentry
      | concluded choice phase =>
          rw [List.mem_singleton.1 hentry]
          rfl
      | committed choice phase takes =>
          rw [List.mem_singleton.1 hentry] at howner
          cases howner
          rw [here] at hj
          cases hj
          exact absurd phase (idle _)
      | _ => cases hentry
  | hired l handler group source action consumers scheduler journal registry => exact hsame journal
  | told a hj listener handler group phase stopping => exact hsame rfl
  | cancelling hj => exact hsame rfl
  | scheduled a turn => exact hsame rfl
  | registered context => exact hsame rfl
  | outside consumers scheduler journal registry => exact hsame journal

/-- **A consumer that goes on with a delivery** takes its next step, and nothing else. -/
theorem of_proceed_delivering (here : s.consumers[i]? = some c) (phase : c.phase = .delivering r d)
    (open₀ : d.isOver = false) (taken : s.step? (.proceed i choice) = some s') :
    ∃ stage d', d.step? (some i) c.listener c.handler r choice s.toStage = some (stage, d')
      ∧ s'.toStage = stage ∧ s'.consumers = s.consumers.set i { c with phase := .delivering r d' } := by
  obtain ⟨b, x, c', entries, advance, rfl⟩ := Advances.of_proceed here taken
  rcases advance.from_delivering phase with ⟨_, stage, d', heq, move, hstage, rfl⟩ | ⟨_, rfl, _⟩
    | ⟨rfl, _⟩
  · cases heq
    exact ⟨stage, d', move.step?, hstage, rfl⟩
  · cases open₀
  · cases open₀

/-- The phase of consumer number `i`, whose delivery of a record `r` of that source is a session that
has come to `d`. -/
inductive Attends (source : String) (s₀ : System) (i : Nat) (r : Record) (t : Stage) (d : Delivery)
    (s : System) : Phase → Prop where
  /-- The delivery goes on, or has just ended. -/
  | delivering (meanwhile : Stage.Meanwhile source t s.toStage) (uncommitted : Uncommitted i s₀ s) :
      Attends source s₀ i r t d s (.delivering r d)
  /-- The consumer has ended with the error of the delivery. -/
  | stopped {e : Error} (error : d = .ended (.error e)) (uncommitted : Uncommitted i s₀ s) :
      Attends source s₀ i r t d s (.ended (.error e))
  /-- The record is dealt with, or the handler has broken down. -/
  | done (phase : Phase) (finished : d.isOver = true) (noError : ∀ e, d ≠ .ended (.error e)) :
      Attends source s₀ i r t d s phase

/-- A consumer that does not go on keeps its phase while it delivers and when it has ended. -/
theorem Goes.phase_eq (goes : s.Goes i a s' c c') (foreign : ∀ choice, a ≠ .proceed i choice)
    (busy : c.phase.waits = false) : c'.phase = c.phase := by
  rcases goes.phase with hsame | ⟨b, entries, advance⟩
  · exact hsame
  · generalize s'.scheduler = x at advance
    cases advance with
    | noticed told waits =>
        rw [busy] at waits
        cases waits
    | _ => exact absurd rfl (foreign _)

/-- What others do. -/
theorem Attends.other {source : String} {u : Stage} (attends : Attends source s₀ i r u d s c.phase)
    (here : s.consumers[i]? = some c) (goes : s.Goes i a s' c c')
    (foreign : ∀ choice, a ≠ .proceed i choice) (taken : s.step? a = some s')
    (chain : s'.registry.chain? source = s.registry.chain? source)
    (broker : s.broker.Calm s'.broker) : Attends source s₀ i r u d s' c'.phase := by
  generalize hphase : c.phase = p at attends
  cases attends with
  | delivering meanwhile uncommitted =>
      rw [goes.phase_eq foreign (by rw [hphase]; rfl), hphase]
      refine .delivering (meanwhile.trans ⟨chain, (Later.of_step taken).now, broker⟩) ?_
      exact uncommitted.step (Step.of_step taken) here (by rw [hphase]; nofun)
  | stopped error uncommitted =>
      rw [goes.phase_eq foreign (by rw [hphase]; rfl), hphase]
      exact .stopped error (uncommitted.step (Step.of_step taken) here (by rw [hphase]; nofun))
  | done phase finished noError => exact .done _ finished noError

/-- **A consumer whose delivery is over** concludes it, or breaks down with the handler. -/
theorem Advance.phase_of_isOver {b : Broker} {x : Scheduler} {entries : List JournalEntry}
    (advance : s.Advance i c a b x c' entries) (phase : c.phase = .delivering r d)
    (finished : d.isOver = true) :
    (∃ result, d = .ended result ∧ c'.phase = Consumer.afterDelivery r result)
      ∨ d = .brokeDown ∧ c'.phase = .brokeDown := by
  rcases advance.from_delivering phase with ⟨_, _, _, _, move, _⟩ | hover
  · rw [Delivery.not_isOver_of_step move.step?] at finished
    cases finished
  · exact hover

/-- The next step of a consumer whose delivery ended with a fatal error. -/
theorem ended_of_proceed {e : Error} (here : s.consumers[i]? = some c)
    (phase : c.phase = .delivering r (.ended (.error e))) (stops : e.stopsConsumer = true)
    (taken : s.step? (.proceed i choice) = some s') :
    ∃ c', s'.consumers[i]? = some c' ∧ c'.phase = .ended (.error e) := by
  obtain ⟨b, x, c', entries, advance, rfl⟩ := Advances.of_proceed here taken
  refine ⟨c', getElem?_put_self here, ?_⟩
  rcases advance.phase_of_isOver phase rfl with ⟨result, heq, hphase⟩ | ⟨heq, _⟩
  · cases heq
    rw [hphase]
    exact if_pos stops
  · cases heq

/-- What the consumer itself does, once its delivery is over. -/
theorem Attends.own {source : String} {u : Stage} (attends : Attends source s₀ i r u d s c.phase)
    (fatal : d.Fatal) (finished : d.isOver = true) (here : s.consumers[i]? = some c)
    (taken : s.step? (.proceed i choice) = some s') :
    ∃ c', s'.consumers[i]? = some c' ∧ c'.listener = c.listener ∧ c'.handler = c.handler
      ∧ Attends source s₀ i r u d s' c'.phase := by
  obtain ⟨b, x, c', entries, advance, hs'⟩ := Advances.of_proceed here taken
  refine ⟨c', ?_, advance.becomes.listener, advance.becomes.handler, ?_⟩
  · rw [hs']
    exact getElem?_put_self here
  generalize hphase : c.phase = q at attends
  cases attends with
  | delivering meanwhile uncommitted =>
      have hstill : Uncommitted i s₀ s' :=
        uncommitted.step (Step.of_step taken) here (by rw [hphase]; nofun)
      rcases advance.phase_of_isOver hphase finished with ⟨result, rfl, hphase'⟩ | ⟨rfl, _⟩
      · cases result with
        | ok outcome => exact .done _ rfl nofun
        | error e =>
            rw [hphase', Consumer.afterDelivery, fatal e rfl, if_pos rfl]
            exact .stopped rfl hstill
      · exact .done _ rfl nofun
  | stopped error uncommitted =>
      rw [step?_of_isFinal here (by rw [hphase]; rfl)] at taken
      cases taken
  | done phase finished noError => exact .done _ finished noError

open Delivery in
/-- **A consumer that publishes alone**: its delivery is a session, and if that ends with an error, so
does the consumer, without a commit. -/
theorem Solo.attends {l : Listener} {h : Handler} {c₀ : Consumer}
    (solo : Solo l.node.source i s₀ s) (here : s₀.consumers[i]? = some c₀)
    (listener : c₀.listener = l) (handler : c₀.handler = h)
    (phase : c₀.phase = .delivering r (.start l r)) :
    ∃ c trials offers t d, s.consumers[i]? = some c ∧ c.listener = l ∧ c.handler = h
      ∧ Session (Uncontested l .any) l h r s₀.toStage trials offers t d
      ∧ Attends l.node.source s₀ i r t d s c.phase := by
  induction solo with
  | refl =>
      refine ⟨c₀, [], [], _, _, here, listener, handler, .start, ?_⟩
      rw [phase]
      exact .delivering (.refl _ _) .refl
  | @own s s' choice before taken ih =>
      obtain ⟨c, trials, offers, t, d, here', hlistener, hhandler, session, attends⟩ := ih
      cases hover : d.isOver with
      | true =>
          obtain ⟨c', here'', hl, hh, attends'⟩ := attends.own session.fatal hover here' taken
          exact ⟨c', trials, offers, t, d, here'', hl.trans hlistener, hh.trans hhandler, session,
            attends'⟩
      | false =>
          generalize hphase : c.phase = p at attends
          cases attends with
          | delivering meanwhile uncommitted =>
              obtain ⟨stage, d', hstep, hstage, hconsumers⟩ :=
                of_proceed_delivering here' hphase hover taken
              rw [hlistener, hhandler] at hstep
              refine ⟨{ c with phase := .delivering r d' }, _, _, stage, d', ?_, hlistener, hhandler,
                session.step (some i) choice (meanwhile.uncontested hstep) hstep, ?_⟩
              · rw [hconsumers]
                exact List.getElem?_set_self (List.getElem?_eq_some_iff.1 here').1
              · rw [← hstage]
                exact .delivering (.refl _ _)
                  (uncommitted.step (Step.of_step taken) here' (by rw [hphase]; nofun))
          | stopped error uncommitted =>
              rw [error] at hover
              cases hover
          | done phase finished noError =>
              rw [finished] at hover
              cases hover
  | @other s s' a before foreign taken chain broker ih =>
      obtain ⟨c, trials, offers, t, d, here', hlistener, hhandler, session, attends⟩ := ih
      obtain ⟨c', here'', goes⟩ := (Step.of_step taken).consumer here'
      exact ⟨c', trials, offers, t, d, here'', goes.listener.trans hlistener,
        goes.handler.trans hhandler, session,
        attends.other here' goes foreign taken chain broker⟩

/-- A run in which the consumer goes on, and otherwise only time passes. -/
theorem Solo.of_run {source : String} {actions : List Action} (run : s.run actions = some t)
    (own : ∀ a ∈ actions, (∃ choice, a = .proceed i choice) ∨ ∃ elapsed, a = .wait elapsed) :
    Solo source i s t := by
  refine keeps_of_run (I := Solo source i s) run (fun u v a ha solo taken => ?_) .refl
  rcases own a ha with ⟨choice, rfl⟩ | ⟨elapsed, rfl⟩
  · exact solo.own choice taken
  · have foreign : ∀ choice, Action.wait elapsed ≠ .proceed i choice := fun choice heq => by cases heq
    have registry : v.registry = u.registry := by
      cases taken
      rfl
    have broker : u.broker.Calm v.broker := by
      cases taken
      exact .refl _
    exact solo.other foreign taken (by rw [registry]) broker

end System

/-! ## §5. No record is lost to a broker that refuses it. -/

open Delivery in
/-- **A consumer whose copy is refused too often** ends with that error and commits nothing. -/
theorem System.Attends.of_refused {l : Listener} {h : Handler} {r : Record} {s₀ s : System} {i : Nat}
    {c : Consumer} {chain : Chain} {p : Nat} {trials : List Trial} {offers : List Offer} {t : Stage}
    {d : Delivery} {x : Trial} {f : Failure} {next : Destination}
    (attends : System.Attends l.node.source s₀ i r t d s c.phase) (here : s.consumers[i]? = some c)
    {registry : Registry} (serves : l.Serves registry chain p)
    (inForce : s₀.registry.chain? l.node.source = some chain) (lenient : s₀.broker.strict = false)
    (session : Session (Uncontested l .any) l h r s₀.toStage trials offers t d)
    (last : trials.getLast? = some x) (failed : x.result = .failed f)
    (routed : l.routed registry x.clock.wall r x.attempt f = .ok next)
    (hasTopic : next.hasTopic = true) (finished : d.isOver = true)
    (tooFew : l.republish.maxTimes.toNat < s₀.broker.failing) :
    s₀.StopsWith i r (.fatal l.node.name (.notRepublished next.name (Broker.madeToFail next.name)))
      s c := by
  have hended : ∃ result, d = .ended result := by
    cases d with
    | ended result => exact ⟨result, rfl⟩
    | brokeDown =>
        obtain ⟨_, y, hlast, hbroke⟩ :=
          session.around.tells serves (inForce.trans serves.inForce.symm)
        cases last.symm.trans hlast
        cases failed.symm.trans hbroke
    | _ => cases finished
  obtain ⟨result, rfl⟩ := hended
  obtain ⟨rfl, _⟩ :=
    (session.bounded serves inForce lenient last failed routed hasTopic).refused tooFew
  generalize hphase : c.phase = q at attends
  cases attends with
  | delivering meanwhile uncommitted =>
      refine ⟨Or.inl hphase, uncommitted, fun choice s' taken => ?_⟩
      exact System.ended_of_proceed here hphase (session.fatal _ rfl) taken
  | stopped error uncommitted =>
      cases error
      refine ⟨Or.inr hphase, uncommitted, fun choice s' taken => ?_⟩
      rw [System.step?_of_isFinal here (by rw [hphase]; rfl)] at taken
      cases taken
  | done phase finished noError => exact absurd rfl (noError _)

open Delivery in
/-- **Republishing is bounded**, with a chain of any planning in force and unchanged and a broker
that is not strict and on which nobody else publishes.  A delivery whose last failure leads to a node
with a topic ends as `Bounded` says: its copy is on that topic once, or it was refused as often as it
may be offered.  In the latter case the consumer, which can go on until then, ends with that error and
has committed nothing.  A session that is not over can go on and comes nearer to its end; a delivery that
is simulated by itself is such a session. -/
theorem republishing_is_bounded (calls : List Planning.Call) {registry : Registry}
    (planned : registry = (Planning.run calls).registry) {chain : Chain} {l : Listener}
    (inForce : registry.chain? l.node.source = some chain)
    (member : l.node ∈ chain.destinations) :
    (∀ pace h r s₀ trials offers s result x f next,
      s₀.registry.chain? l.node.source = some chain → s₀.broker.strict = false →
      Session (Uncontested l pace) l h r s₀ trials offers s (.ended result) →
      trials.getLast? = some x → x.result = .failed f →
      l.routed registry x.clock.wall r x.attempt f = .ok next → next.hasTopic = true →
      Bounded l r x f next s₀.broker s.broker offers.length result)
    ∧ (∀ (s₀ s : System) i c₀ h r, s₀.registry.chain? l.node.source = some chain →
      s₀.broker.strict = false → s₀.consumers[i]? = some c₀ → c₀.listener = l → c₀.handler = h →
      c₀.phase = .delivering r (.start l r) → System.Solo l.node.source i s₀ s →
      ∃ c trials offers t d, s.consumers[i]? = some c
        ∧ Session (Uncontested l .any) l h r s₀.toStage trials offers t d
        ∧ (d.isOver = false → c.phase = .delivering r d)
        ∧ (c.phase = .delivering r d → (∀ wake, d.wake? = some wake → wake ≤ s.now) →
            ∃ s', s.step? (.proceed i {}) = some s')
        ∧ ∀ x f next, trials.getLast? = some x → x.result = .failed f →
          l.routed registry x.clock.wall r x.attempt f = .ok next → next.hasTopic = true →
          d.isOver = true → l.republish.maxTimes.toNat < s₀.broker.failing →
          s₀.StopsWith i r
            (.fatal l.node.name (.notRepublished next.name (Broker.madeToFail next.name))) s c)
    ∧ (∀ pace h r s₀ trials offers s d, s₀.registry.chain? l.node.source = some chain →
      Session (Uncontested l pace) l h r s₀ trials offers s d → d.isOver = false →
      ∀ t, Uncontested l pace d s t → ∀ consumer choice, ∃ s' d',
        d.step? consumer l h r choice t = some (s', d') ∧ d'.stepsLeft l < d.stepsLeft l)
    ∧ ∀ (s : Simulation) h r result, (s.process l h r).1 = some result →
      ∃ trials offers, Session (Uncontested l .prompt) l h r s.toStage trials offers
        (s.process l h r).2.toStage (.ended result) := by
  subst planned
  obtain ⟨p, serves, _⟩ := Planning.serves inForce member
  refine ⟨?_, ?_, ?_, ?_⟩
  · intro pace h r s₀ trials offers s result x f next hchain lenient session last failed routed topic
    exact session.bounded serves hchain lenient last failed routed topic
  · intro s₀ s i c₀ h r hchain lenient here hlistener hhandler phase solo
    obtain ⟨c, trials, offers, t, d, here', _, _, session, attends⟩ :=
      solo.attends here hlistener hhandler phase
    refine ⟨c, trials, offers, t, d, here', session, ?_, ?_, ?_⟩
    · intro open₀
      generalize c.phase = q at attends
      cases attends with
      | delivering meanwhile uncommitted => rfl
      | stopped error uncommitted =>
          rw [error] at open₀
          cases open₀
      | done phase finished noError =>
          rw [finished] at open₀
          cases open₀
    · intro hphase awake
      refine System.Ready.exists_proceed ⟨?_, ?_, ?_, ?_⟩ here'
      · intro wake hwake
        rw [Consumer.wake?, hphase] at hwake
        exact awake wake hwake
      · rw [hphase]
        exact nofun
      · rw [hphase]
        exact nofun
      · rw [hphase]
        rfl
    · intro x f next last failed routed topic finished tooFew
      exact attends.of_refused here' serves hchain lenient session last failed routed topic finished
        tooFew
  · intro pace h r s₀ trials offers s d hchain session open₀ t between consumer choice
    have hsame := session.around.chain.trans (hchain.trans serves.inForce.symm)
    exact exists_step_of_not_over (serves.of_chain hsame) between.toAround open₀ consumer h choice
  · intro s h r result hprocess
    obtain ⟨trials, offers, hsession⟩ := Simulation.session_of_process hprocess
    refine ⟨trials, offers, hsession.mono fun d s t halone => ⟨halone.toAround l .prompt, ?_⟩⟩
    unfold Alone at halone
    subst halone
    exact .refl _

namespace Orders

/-- A chain with one attempt at each node is built and put in force. -/
def trying : List Planning.Call :=
  [.process 0 "orders" (Level.forChain [10] 1 true true) {} {}, .register 0]

/-- The chain: a main node, one retry node, and the dead-letter node. -/
def tryingChain : Chain := ((Planning.run trying).registry.chain? "orders").getD default

/-- Serves the main node, and offers a copy once more after a refusal. -/
def tryingListener : Listener where
  node := (tryingChain.destinations[0]?).getD default
  republish := { maxTimes := 1 }

/-- The handler always fails, and the broker refuses the next publishes. -/
def refusing (failures : Nat) : Simulation where
  registry := (Planning.run trying).registry
  broker := { failing := failures }
  scripts := [("main", { rest := { result := .failed fault } })]

/-- What a delivery of a record of the main topic comes to. -/
def tried (failures : Nat) : Option (Except Error Outcome) × Simulation :=
  (refusing failures).process tryingListener (.named "main") { topic := "orders" }

/-- Such a record has just been handed to the only consumer. -/
def refusingSystem : System where
  toStage := (refusing 3).toStage
  consumers := [⟨tryingListener, .named "main", "retrytopic", .feed [] [],
    .delivering { topic := "orders" } (.start tryingListener { topic := "orders" }), false, .kept⟩]

/-- It fails, and its copy is refused twice, with a pause in between. -/
def refusedTwice : List Action :=
  [.proceed 0 { reply := { result := .failed fault } }, .proceed 0 {}, .proceed 0 {}, .wait 100,
    .proceed 0 {}, .proceed 0 {}]

end Orders

open Orders Delivery in
/-- One refusal, and the second copy is stored; three refusals are too many for one retry: the logs are
as they were, one failure is left, and the consumer ends. -/
theorem republishing_is_bounded_of_refusal :
    (∃ trials offers s, ∃ (x : Trial) (f : Failure) (next : Destination),
      Session (Uncontested tryingListener .prompt) tryingListener
        (.named "main") { topic := "orders" } (refusing 1).toStage trials offers s
        (.ended (.ok (.forwarded "orders-retry")))
      ∧ Listener.outcomeOf next = .forwarded "orders-retry" ∧ offers.length = 2
      ∧ s.broker.failing = 0 ∧ ∃ now, ∀ topic, s.broker.records topic
        = if next.name = topic then
          [Broker.stored (tryingListener.copyFor { topic := "orders" } f x.attempt x.clock.wall next)
            0 now]
        else [])
    ∧ (∃ trials offers s, Session (Uncontested tryingListener .prompt) tryingListener
        (.named "main") { topic := "orders" } (refusing 3).toStage trials offers s
        (.ended (.error (.fatal "orders"
          (.notRepublished "orders-retry" (Broker.madeToFail "orders-retry")))))
      ∧ offers.length = 2 ∧ s.broker.failing = 1 ∧ ∀ topic, s.broker.records topic = [])
    ∧ ∃ s c trials offers t d, System.Solo "orders" 0 refusingSystem s ∧ s.consumers[0]? = some c
      ∧ Session (Uncontested tryingListener .any) tryingListener (.named "main")
        { topic := "orders" } refusingSystem.toStage trials offers t d
      ∧ c.phase = .ended (.error (.fatal "orders"
        (.notRepublished "orders-retry" (Broker.madeToFail "orders-retry")))) := by
  have hchain : (Planning.run trying).registry.chain? tryingListener.node.source
      = some tryingChain := by
    decide +kernel
  have hmember : tryingListener.node ∈ tryingChain.destinations := by decide +kernel
  obtain ⟨p, serves, _⟩ := Planning.serves hchain hmember
  obtain ⟨hbounded, hconsumer, _, hsimulated⟩ :=
    republishing_is_bounded trying rfl hchain hmember
  -- a delivery that is simulated, with its last trial
  have hends : ∀ failures result, (tried failures).1 = some result → result ≠ .ok .processed →
      result ≠ .ok .dropped → ∃ trials offers x f next,
        Session (Uncontested tryingListener .prompt) tryingListener (.named "main")
          { topic := "orders" } (refusing failures).toStage trials offers
          (tried failures).2.toStage (.ended result)
        ∧ Bounded tryingListener { topic := "orders" } x f next (refusing failures).broker
          (tried failures).2.broker offers.length result := by
    intro failures result hresult unprocessed kept
    obtain ⟨trials, offers, hsession⟩ := hsimulated (refusing failures) _ _ _ hresult
    obtain ⟨x, hlast, conclusion⟩ := hsession.around.tells serves rfl
    obtain ⟨f, next, failed, routed, topic⟩ :=
      conclusion.of_copied (by decide +kernel) unprocessed kept
    exact ⟨trials, offers, x, f, next, hsession,
      hbounded _ _ _ _ _ _ _ _ _ _ _ hchain rfl hsession hlast failed routed topic⟩
  refine ⟨?_, ?_, ?_⟩
  · have hone : (tried 1).1 = some (.ok (.forwarded "orders-retry")) := by decide +kernel
    obtain ⟨trials, offers, x, f, next, hsession, bounded⟩ := hends 1 _ hone nofun nofun
    obtain ⟨hresult, htries, hnone, now, hlogs⟩ := bounded.stored (by decide +kernel)
    exact ⟨trials, offers, _, x, f, next, hsession, (Except.ok.inj hresult).symm, htries, hnone,
      now, hlogs⟩
  · have hthree : (tried 3).1 = some (.error (.fatal "orders"
        (.notRepublished "orders-retry" (Broker.madeToFail "orders-retry")))) := by
      decide +kernel
    obtain ⟨trials, offers, x, f, next, hsession, bounded⟩ := hends 3 _ hthree nofun nofun
    obtain ⟨_, htries, hleft, hlogs⟩ := bounded.refused (by decide +kernel)
    exact ⟨trials, offers, _, hsession, htries, hleft, hlogs⟩
  · have hphase : ((refusingSystem.run refusedTwice).bind fun s =>
        s.consumers[0]?.map Consumer.phase) = some (.ended (.error (.fatal "orders"
          (.notRepublished "orders-retry" (Broker.madeToFail "orders-retry"))))) := by
      decide +kernel
    obtain ⟨s, hrun, hphase⟩ := Option.bind_eq_some_iff.1 hphase
    obtain ⟨c', here', hphase⟩ := Option.map_eq_some_iff.1 hphase
    have hsolo : System.Solo "orders" 0 refusingSystem s :=
      .of_run hrun (by simp [refusedTwice])
    obtain ⟨c, trials, offers, t, d, here, hsession, _⟩ :=
      hconsumer _ _ _ _ _ _ hchain rfl rfl rfl rfl rfl hsolo
    obtain rfl := Option.some.inj (here.symm.trans here')
    exact ⟨s, c, trials, offers, t, d, hsolo, here, hsession, hphase⟩

end Redelivery
