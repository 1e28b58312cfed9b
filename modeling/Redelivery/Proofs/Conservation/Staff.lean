/-
  Redelivery.Proofs.Conservation.Staff
  ────────────────────────────────────
  **What is true of the consumers of an endpoint at all times.**

  At most one consumer works at each topic, with a subscription that serves
  the topic from the floor on; a record that it has in hand is the one at the
  floor, and its inbox starts behind it.

      inbox = log.drop (floor + held)

  A consumer that ended with an error left its record at the floor.  All of
  this is `Staffed`; `Staffed.of_turn` says that every turn keeps it.
-/
import Redelivery.Proofs.Conservation.Turns
import Redelivery.Proofs.Topology.Routes

namespace Redelivery

/-! ## §1. Chains and deliveries. -/

/-- The topic is one of the chain in force for a source topic. -/
def Registry.Reaches (registry : Registry) (source topic : String) : Prop :=
  ∃ chain, registry.chain? source = some chain
    ∧ ∃ d ∈ chain.destinations, d.hasTopic = true ∧ d.name = topic

/-- Whether a topic is reached can be computed. -/
theorem Registry.reaches_iff {registry : Registry} {source topic : String} :
    registry.Reaches source topic ↔ ((registry.chain? source).any fun chain =>
      chain.destinations.any fun d => d.hasTopic && d.name == topic) = true := by
  unfold Reaches
  constructor
  · rintro ⟨chain, hchain, d, hd, htopic, rfl⟩
    rw [hchain]
    refine List.any_eq_true.2 ⟨d, hd, ?_⟩
    rw [htopic, beq_self_eq_true]
    rfl
  · intro hany
    cases hchain : registry.chain? source with
    | none =>
        rw [hchain] at hany
        cases hany
    | some chain =>
        rw [hchain] at hany
        obtain ⟨d, hd, hboth⟩ := List.any_eq_true.1 hany
        rw [Bool.and_eq_true, beq_iff_eq] at hboth
        exact ⟨chain, rfl, d, hd, hboth⟩

instance (registry : Registry) (source topic : String) :
    Decidable (registry.Reaches source topic) := decidable_of_iff _ Registry.reaches_iff.symm

/-- A copy of the record for a topic of the chain is to be published. -/
structure CopyFor (registry : Registry) (source : String) (r : Record) (out : OutgoingRecord)
    (outcome : Outcome) : Prop where
  isCopy : outcome.isCopy = true
  reaches : registry.Reaches source out.topic
  key : out.key = r.key
  value : out.value = r.value

/-- Copies go to topics of the chain, and errors stop the consumer. -/
def Delivery.Sound (registry : Registry) (source : String) (r : Record) : Delivery → Prop
  | .publishing out outcome _ _ => CopyFor registry source r out outcome
  | .ended (.error e) => e.stopsConsumer = true
  | _ => True

theorem outcomeOf_isCopy (d : Destination) : (Listener.outcomeOf d).isCopy = true := by
  unfold Listener.outcomeOf
  split <;> rfl

/-- A move keeps a delivery sound: what it publishes goes to a topic of the chain. -/
theorem Delivery.Move.sound {consumer : Option Nat} {l : Listener} {h : Handler} {r : Record}
    {choice : Choice} {s s' : Stage} {d d' : Delivery}
    (move : Move consumer l h r choice s d s' d') (hd : d.Sound s.registry l.node.source r) :
    d'.Sound s.registry l.node.source r := by
  cases move with
  | called attempt =>
      cases h with
      | named name => trivial
      | logging level => trivial
  | succeeded due => trivial
  | brokeDown due => trivial
  | again due verdict => trivial
  | finished due verdict =>
      rcases Listener.of_verdict_finish verdict with rfl | ⟨e, hrouted, rfl⟩
      · trivial
      · exact Registry.stopsConsumer_of_resolve hrouted
  | republishing due verdict =>
      obtain ⟨next, hrouted, _, htopic, rfl, rfl⟩ := Listener.of_verdict_republish verdict
      obtain ⟨chain, hchain, hmem⟩ := Registry.mem_of_resolve hrouted
      refine ⟨outcomeOf_isCopy next, ⟨chain, hchain, next, hmem, ?_, rfl⟩, rfl, rfl⟩
      unfold Destination.hasTopic
      rw [htopic]
      rfl
  | rested due => trivial
  | published due answer => trivial
  | refused due answer left => exact hd
  | gaveUp due answer left => rfl

/-! ## §2. Consumers at work. -/

/-- Who may work at an endpoint: consumers of one group, each at one of these nodes. -/
structure Roster where
  group : String
  sources : List String
  nodes : List Destination

/-- The chains in force are those of the source topics, and each of their topics has a node. -/
structure Roster.InForce (w : Roster) (registry : Registry) : Prop where
  begins : ∀ source ∈ w.sources, registry.Reaches source source
  complete : ∀ source ∈ w.sources, ∀ topic, registry.Reaches source topic →
    ∃ d ∈ w.nodes, d.name = topic
  sound : ∀ d ∈ w.nodes, d.source ∈ w.sources ∧ registry.Reaches d.source d.name

/-- Some chain of the endpoint has both topics. -/
def Roster.Linked (w : Roster) (registry : Registry) (topic topic' : String) : Prop :=
  ∃ source ∈ w.sources, registry.Reaches source topic ∧ registry.Reaches source topic'

/-- How many records a consumer has in hand. -/
def Phase.held (p : Phase) : Nat := if p.inHand?.isSome then 1 else 0

/-- The consumer works for the group at one of the nodes, and its subscription is at the floor. -/
structure Employed (w : Roster) (b : Broker) (registry : Registry) (id : Nat) (c : Consumer) :
    Prop where
  group : c.group = w.group
  node : c.listener.node ∈ w.nodes
  source : c.source = .subscription id
  issued : id < b.nextSubscription
  serves : c.phase.isFinal = false →
    b.Serves w.group c.topic id (b.floor w.group c.topic + c.phase.held)
  hand : ∀ r, c.phase.inHand? = some r →
    (b.records c.topic)[b.floor w.group c.topic]? = some r
  delivery : ∀ r d, c.phase = .delivering r d → d.Sound registry c.listener.node.source r

/-- The record that made a consumer end with an error is the next one of its topic. -/
def System.LeftBehind (s : System) (group : String) (i : Nat) (topic : String) (e : Error) : Prop :=
  ∃ time r, ⟨time, some i, .concluded r (.error e)⟩ ∈ s.journal
    ∧ (s.broker.records topic)[s.broker.floor group topic]? = some r

/-- Every record that the entries conclude lies on its topic. -/
def Broker.HoldsConcluded (b : Broker) (entries : List JournalEntry) : Prop :=
  ∀ entry ∈ entries, ∀ r result, entry.event = .concluded r result → b.Holds r

/-- No consumer was started at the topic of a consumer after it. -/
def System.IsLatest (s : System) (i : Nat) (topic : String) : Prop :=
  ∀ j c, i < j → s.consumers[j]? = some c → c.topic ≠ topic

/-- What is true of every two consumers, of which the first was started earlier. -/
def System.Pairs (s : System) (P : Consumer → Consumer → Prop) : Prop :=
  ∀ (i j : Nat) c c', i < j → s.consumers[i]? = some c → s.consumers[j]? = some c' → P c c'

structure Staffed (w : Roster) (s : System) : Prop where
  inForce : w.InForce s.registry
  lawful : s.broker.Lawful
  floor : ∀ topic, s.broker.floor w.group topic ≤ (s.broker.records topic).length
  employed : ∀ (i : Nat) c, s.consumers[i]? = some c → ∃ id, Employed w s.broker s.registry id c
  apart : s.Pairs fun c c' => c.source ≠ c'.source
  sole : s.Pairs fun c c' => c.topic = c'.topic → c.phase.isFinal = true
  journal : s.broker.HoldsConcluded s.journal
  failures : ∀ (i : Nat) c e, s.consumers[i]? = some c → c.phase = .ended (.error e) →
    s.IsLatest i c.topic → s.LeftBehind w.group i c.topic e

variable {w : Roster} {s s' : System} {b b' : Broker} {registry : Registry} {id i : Nat}
  {c c' : Consumer}

/-! ## §3. What leaves a consumer at work. -/

theorem Phase.inHand?_of_isFinal {p : Phase} (h : p.isFinal = true) : p.inHand? = none := by
  cases p with
  | ended result => rfl
  | brokeDown => rfl
  | polling since => cases h
  | received r => cases h
  | pausing wake => cases h
  | holding r activation => cases h
  | delivering r d => cases h
  | committing r => cases h

/-- A consumer that has ended does not care what becomes of its topic. -/
theorem Employed.of_isFinal (h : Employed w b registry id c) (hfinal : c.phase.isFinal = true)
    (hissued : b.nextSubscription ≤ b'.nextSubscription) : Employed w b' registry id c where
  group := h.group
  node := h.node
  source := h.source
  issued := Nat.lt_of_lt_of_le h.issued hissued
  serves := fun hnot => by
    rw [hfinal] at hnot
    cases hnot
  hand := fun r hr => by
    rw [Phase.inHand?_of_isFinal hfinal] at hr
    cases hr
  delivery := h.delivery

/-- Growing logs and changes elsewhere leave a consumer at work. -/
theorem Employed.of_floor (h : Employed w b registry id c)
    (hissued : b.nextSubscription ≤ b'.nextSubscription)
    (hrecords : ∀ topic, b.records topic <+: b'.records topic)
    (hfloor : b'.floor w.group c.topic = b.floor w.group c.topic)
    (hserves : ∀ n, b.Serves w.group c.topic id n → b'.Serves w.group c.topic id n) :
    Employed w b' registry id c where
  group := h.group
  node := h.node
  source := h.source
  issued := Nat.lt_of_lt_of_le h.issued hissued
  serves := fun hnot => by
    rw [hfloor]
    exact hserves _ (h.serves hnot)
  hand := fun r hr => by
    rw [hfloor]
    exact Broker.getElem?_of_grown (hrecords c.topic) (h.hand r hr)
  delivery := h.delivery

/-- A consumer stays employed while the broker upholds its subscription. -/
theorem Employed.of_upheld (h : Employed w b registry id c) (hupheld : b.Upheld w.group b') :
    Employed w b' registry id c :=
  h.of_floor hupheld.issued hupheld.records (hupheld.floor c.topic) fun _ => hupheld.serves

/-! ## §4. What was concluded. -/

theorem System.Plain.holdsConcluded {entries : List JournalEntry} (h : Plain entries)
    (b : Broker) : b.HoldsConcluded entries :=
  fun entry hentry r result hevent => absurd hevent (h entry hentry r result)

/-- An entry about a record that the broker holds may be noted. -/
theorem Broker.holdsConcluded_singleton {r : Record} (h : b.Holds r) (time : Nat)
    (consumer : Option Nat) (result : Except Error Outcome) :
    b.HoldsConcluded [⟨time, consumer, .concluded r result⟩] := by
  intro entry hentry r' result' hevent
  rw [List.mem_singleton] at hentry
  subst hentry
  cases hevent
  exact h

/-- Records that were concluded stay in their logs. -/
theorem Broker.HoldsConcluded.of_grown {entries : List JournalEntry} (h : b.HoldsConcluded entries)
    (hrecords : ∀ topic, b.records topic <+: b'.records topic) : b'.HoldsConcluded entries :=
  fun entry hentry r result hevent => (h entry hentry r result hevent).of_grown hrecords

theorem Broker.HoldsConcluded.append {entries entries' : List JournalEntry}
    (h : b.HoldsConcluded entries) (h' : b.HoldsConcluded entries') :
    b.HoldsConcluded (entries ++ entries') := by
  intro entry hentry
  rcases List.mem_append.1 hentry with hold | hnew
  · exact h entry hold
  · exact h' entry hnew

/-- A record that was left behind stays there until its topic is committed further. -/
theorem System.LeftBehind.of_grown {group topic : String} {e : Error}
    (h : s.LeftBehind group i topic e) (hjournal : s.journal <+: s'.journal)
    (hrecords : ∀ topic, s.broker.records topic <+: s'.broker.records topic)
    (hfloor : s'.broker.floor group topic = s.broker.floor group topic) :
    s'.LeftBehind group i topic e := by
  obtain ⟨time, r, hmem, hr⟩ := h
  refine ⟨time, r, hjournal.subset hmem, ?_⟩
  rw [hfloor]
  exact Broker.getElem?_of_grown (hrecords topic) hr

/-! ## §5. What leaves the staff as it is. -/

/-- The consumers differ only in whether they were told to stop, and were waited for. -/
structure Consumer.Same (c c' : Consumer) : Prop where
  listener : c'.listener = c.listener
  group : c'.group = c.group
  source : c'.source = c.source
  phase : c'.phase = c.phase

theorem Consumer.Same.topic (h : c.Same c') : c'.topic = c.topic :=
  congrArg (fun l : Listener => l.node.name) h.listener

/-- A consumer that is the same stays employed. -/
theorem Employed.of_same (h : Employed w b registry id c) (hsame : c.Same c') :
    Employed w b registry id c' where
  group := hsame.group.trans h.group
  node := by
    rw [hsame.listener]
    exact h.node
  source := hsame.source.trans h.source
  issued := h.issued
  serves := by
    rw [hsame.phase, hsame.topic]
    exact h.serves
  hand := by
    rw [hsame.phase, hsame.topic]
    exact h.hand
  delivery := by
    rw [hsame.phase, hsame.listener]
    exact h.delivery

/-- The same consumers, one for one. -/
structure System.SameStaff (s s' : System) : Prop where
  forth : ∀ (i : Nat) c, s.consumers[i]? = some c → ∃ c', s'.consumers[i]? = some c' ∧ c.Same c'
  back : ∀ (i : Nat) c', s'.consumers[i]? = some c' → ∃ c, s.consumers[i]? = some c ∧ c.Same c'

theorem System.SameStaff.of_eq (h : s'.consumers = s.consumers) : s.SameStaff s' where
  forth := fun i c hc => ⟨c, by rw [h]; exact hc, rfl, rfl, rfl, rfl⟩
  back := fun i c hc => ⟨c, by rw [← h]; exact hc, rfl, rfl, rfl, rfl⟩

/-- What holds of all pairs of consumers holds while the staff is the same. -/
theorem System.SameStaff.pairs {P : Consumer → Consumer → Prop} (same : s.SameStaff s')
    (h : s.Pairs P) (hsame : ∀ c c' x x', c.Same c' → x.Same x' → P c x → P c' x') :
    s'.Pairs P := by
  intro i j c' x' hij hc' hx'
  obtain ⟨c, hc, hcsame⟩ := same.back i c' hc'
  obtain ⟨x, hx, hxsame⟩ := same.back j x' hx'
  exact hsame c c' x x' hcsame hxsame (h i j c x hij hc hx)

/-- Nobody changes, and the broker goes on serving. -/
theorem Staffed.of_upheld (h : Staffed w s) (registry : s'.registry = s.registry)
    (journal : s'.journal = s.journal) (same : s.SameStaff s')
    (upheld : s.broker.Upheld w.group s'.broker) : Staffed w s' where
  inForce := by
    rw [registry]
    exact h.inForce
  lawful := upheld.lawful h.lawful
  floor := fun topic => upheld.within (h.floor topic)
  employed := by
    intro i c' hc'
    obtain ⟨c, hc, hsame⟩ := same.back i c' hc'
    obtain ⟨id, hid⟩ := h.employed i c hc
    rw [registry]
    exact ⟨id, (hid.of_upheld upheld).of_same hsame⟩
  apart := by
    refine same.pairs h.apart fun c c' x x' hc hx hne => ?_
    rw [hc.source, hx.source]
    exact hne
  sole := by
    refine same.pairs h.sole fun c c' x x' hc hx hsole htopic => ?_
    rw [hc.topic, hx.topic] at htopic
    rw [hc.phase]
    exact hsole htopic
  journal := by
    rw [journal]
    exact h.journal.of_grown upheld.records
  failures := by
    intro i c' e hc' hphase hlatest
    obtain ⟨c, hc, hsame⟩ := same.back i c' hc'
    -- a consumer with no successor now had none before
    have hlatest' : s.IsLatest i c.topic := by
      intro j x hij hx heq
      obtain ⟨x', hx', hsame'⟩ := same.forth j x hx
      exact hlatest j x' hij hx' (hsame'.topic.trans (heq.trans hsame.topic.symm))
    have hleft := h.failures i c e hc (hsame.phase.symm.trans hphase) hlatest'
    have hjournal : s.journal <+: s'.journal := ⟨[], (List.append_nil _).trans journal.symm⟩
    rw [hsame.topic]
    exact hleft.of_grown hjournal upheld.records (upheld.floor c.topic)

/-- A consumer of the staff is one that was there, or the one that took the step. -/
theorem System.of_getElem?_put {j : Nat} {c'' : Consumer} (here : s.consumers[i]? = some c)
    {entries : List JournalEntry} {scheduler : Scheduler}
    (h : (s.put b i c' entries scheduler).consumers[j]? = some c'') :
    (i = j ∧ c'' = c') ∨ (i ≠ j ∧ s.consumers[j]? = some c'') := by
  rw [getElem?_put here] at h
  by_cases hij : i = j
  · rw [if_pos hij] at h
    cases h
    exact Or.inl ⟨hij, rfl⟩
  · rw [if_neg hij] at h
    exact Or.inr ⟨hij, h⟩

/-- A consumer that stays the same leaves the staff the same. -/
theorem System.SameStaff.put (here : s.consumers[i]? = some c) (hsame : c.Same c')
    (entries : List JournalEntry) (scheduler : Scheduler) :
    s.SameStaff (s.put b i c' entries scheduler) where
  forth := by
    intro j x hx
    by_cases hij : i = j
    · subst hij
      rw [here] at hx
      cases hx
      exact ⟨c', getElem?_put_self here, hsame⟩
    · exact ⟨x, by rw [getElem?_put here, if_neg hij, hx], rfl, rfl, rfl, rfl⟩
  back := by
    intro j x hx
    rcases of_getElem?_put here hx with ⟨rfl, rfl⟩ | ⟨_, hj⟩
    · exact ⟨c, here, hsame⟩
    · exact ⟨x, hj, rfl, rfl, rfl, rfl⟩

/-- Of two consumers of one topic one has ended. -/
theorem Staffed.isFinal_of_topic (h : Staffed w s) {j : Nat} (hij : i ≠ j)
    (hc : s.consumers[i]? = some c) (hc' : s.consumers[j]? = some c') (htopic : c.topic = c'.topic)
    (hopen : c.phase.isFinal = false) : c'.phase.isFinal = true ∧ j < i := by
  rcases Nat.lt_or_gt_of_ne hij with hlt | hgt
  · have hfinal := h.sole i j c c' hlt hc hc' htopic
    rw [hopen] at hfinal
    cases hfinal
  · exact ⟨h.sole j i c' c hgt hc' hc htopic.symm, hgt⟩

/-- Only the pairs of the consumer that took the step can change. -/
theorem System.Pairs.put {P : Consumer → Consumer → Prop} (h : s.Pairs P)
    (here : s.consumers[i]? = some c)
    (before : ∀ (j : Nat) x, j < i → s.consumers[j]? = some x → P x c')
    (behind : ∀ (k : Nat) y, i < k → s.consumers[k]? = some y → P c' y)
    {entries : List JournalEntry} {scheduler : Scheduler} :
    (s.put b i c' entries scheduler).Pairs P := by
  intro j k x y hjk hx hy
  rcases of_getElem?_put here hx with ⟨rfl, rfl⟩ | ⟨_, hold⟩
  · rcases of_getElem?_put here hy with ⟨rfl, _⟩ | ⟨_, hold'⟩
    · exact absurd hjk (Nat.lt_irrefl _)
    · exact behind k y hjk hold'
  · rcases of_getElem?_put here hy with ⟨rfl, rfl⟩ | ⟨_, hold'⟩
    · exact before j x hjk hold
    · exact h j k x y hjk hold hold'

/-- Two consumers do not have one subscription. -/
theorem Staffed.source_ne (h : Staffed w s) {j : Nat} (hij : i ≠ j)
    (hc : s.consumers[i]? = some c) (hc' : s.consumers[j]? = some c') : c.source ≠ c'.source := by
  rcases Nat.lt_or_gt_of_ne hij with hlt | hgt
  · exact h.apart i j c c' hlt hc hc'
  · exact (h.apart j i c' c hgt hc' hc).symm

/-- **One consumer takes a step** that changes nothing for the others. -/
theorem Staffed.put (h : Staffed w s) (here : s.consumers[i]? = some c)
    (atWork : c.phase.isFinal = false) (source : c.source = .subscription id)
    (onward : s.broker.Onward w.group c.topic id b')
    (floor : b'.floor w.group c.topic ≤ (b'.records c.topic).length)
    (employed : Employed w b' s.registry id c') (listener : c'.listener = c.listener)
    {entries : List JournalEntry} {scheduler : Scheduler} (journal : b'.HoldsConcluded entries)
    (failure : ∀ e, c'.phase = .ended (.error e) →
      (s.put b' i c' entries scheduler).LeftBehind w.group i c.topic e) :
    Staffed w (s.put b' i c' entries scheduler) := by
  have htopic : c'.topic = c.topic := congrArg (fun l : Listener => l.node.name) listener
  have hsource : c'.source = c.source := employed.source.trans source.symm
  exact
    { inForce := h.inForce
      lawful := onward.lawful h.lawful
      floor := by
        intro topic
        show b'.floor w.group topic ≤ (b'.records topic).length
        by_cases heq : topic = c.topic
        · subst heq
          exact floor
        · rw [onward.floor topic heq]
          exact Nat.le_trans (h.floor topic) (onward.records topic).length_le
      employed := by
        intro j x hx
        rcases System.of_getElem?_put here hx with ⟨_, rfl⟩ | ⟨hij, hj⟩
        · exact ⟨id, employed⟩
        · obtain ⟨id', hid'⟩ := h.employed j x hj
          refine ⟨id', ?_⟩
          -- others at the same topic have ended, and others elsewhere have other subscriptions
          by_cases heq : c.topic = x.topic
          · exact hid'.of_isFinal (h.isFinal_of_topic hij here hj heq atWork).1 onward.issued
          · have hne : id' ≠ id := by
              intro hid
              apply h.source_ne hij here hj
              rw [source, hid'.source, hid]
            exact hid'.of_floor onward.issued onward.records
              (onward.floor _ fun h => heq h.symm) fun _ => onward.serves hne
      apart := by
        apply h.apart.put here
        · intro j x hlt hx
          rw [hsource]
          exact h.apart j i x c hlt hx here
        · intro k y hlt hy
          rw [hsource]
          exact h.apart i k c y hlt here hy
      sole := by
        apply h.sole.put here
        · intro j x hlt hx hxc
          exact h.sole j i x c hlt hx here (hxc.trans htopic)
        · intro k y hlt hy hcy
          -- a consumer behind one that is at work has another topic
          have hfinal := h.sole i k c y hlt here hy (htopic.symm.trans hcy)
          rw [atWork] at hfinal
          cases hfinal
      journal := (h.journal.of_grown onward.records).append journal
      failures := by
        intro j x e hx hphase hlatest
        rcases System.of_getElem?_put here hx with ⟨rfl, rfl⟩ | ⟨hij, hx⟩
        · rw [htopic]
          exact failure e hphase
        · -- its topic is another one, since the consumer at work is not behind it
          have hother : x.topic ≠ c.topic := by
            intro heq
            have hlt := (h.isFinal_of_topic hij here hx heq.symm atWork).2
            refine hlatest i c' hlt ?_ (htopic.trans heq.symm)
            rw [System.getElem?_put_self here]
          have hlatest' : s.IsLatest j x.topic := by
            intro k y hjk hy heq
            by_cases hik : i = k
            · subst hik
              rw [here] at hy
              cases hy
              exact hother heq.symm
            · refine hlatest k y hjk ?_ heq
              rw [System.getElem?_put here, if_neg hik]
              exact hy
          exact (h.failures j x e hx hphase hlatest').of_grown (List.prefix_append _ _)
            onward.records (onward.floor _ hother) }

end Redelivery
