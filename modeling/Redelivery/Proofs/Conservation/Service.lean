/-
  Redelivery.Proofs.Conservation.Service
  ──────────────────────────────────────
  **Every turn keeps the staff of an endpoint.**

  One lemma for each kind of turn: receiving moves the subscription ahead of
  the floor by one, committing moves the floor after it, ending gives the
  subscription up, and a new consumer begins at the floor.  All others leave
  both alone.
-/
import Redelivery.Proofs.Conservation.Staff

namespace Redelivery

variable {w : Roster} {s s' : System} {b b' : Broker} {registry : Registry} {id i : Nat}
  {c c' : Consumer}

/-! ## §1. Permitted actions. -/

/-- What may happen while an endpoint is up: no other chains are put in force, and a consumer is
started only for the group, at a node at which nobody works any more. -/
def Roster.Permits (w : Roster) (s : System) : Action → Prop
  | .register _ | .startFeed _ _ _ _ _ => False
  | .start l _ group => group = w.group ∧ l.node ∈ w.nodes
      ∧ ∀ c ∈ s.consumers, c.topic = l.node.name → c.phase.isFinal = true
  | _ => True

/-- A consumer goes to a phase in which it has as much in hand. -/
theorem Employed.of_phase (h : Employed w b registry id c) (atWork : c.phase.isFinal = false)
    {phase : Phase} (hand : phase.inHand? = c.phase.inHand?)
    (delivery : ∀ r d, phase = .delivering r d → d.Sound registry c.listener.node.source r) :
    Employed w b registry id { c with phase := phase } where
  group := h.group
  node := h.node
  source := h.source
  issued := h.issued
  serves := fun _ => by
    have hheld : phase.held = c.phase.held := by
      unfold Phase.held
      rw [hand]
    show b.Serves w.group c.topic id (b.floor w.group c.topic + phase.held)
    rw [hheld]
    exact h.serves atWork
  hand := by
    intro r hr
    exact h.hand r (hand.symm.trans hr)
  delivery := delivery

/-- A consumer ends. -/
theorem Employed.of_end (h : Employed w b registry id c)
    (hissued : b.nextSubscription ≤ b'.nextSubscription) {phase : Phase}
    (hfinal : phase.isFinal = true) : Employed w b' registry id { c with phase := phase } where
  group := h.group
  node := h.node
  source := h.source
  issued := Nat.lt_of_lt_of_le h.issued hissued
  serves := fun hnot => by
    have hnot : phase.isFinal = false := hnot
    rw [hfinal] at hnot
    cases hnot
  hand := fun r hr => by
    have hr : phase.inHand? = some r := hr
    rw [Phase.inHand?_of_isFinal hfinal] at hr
    cases hr
  delivery := fun r d hphase => by
    have hphase : phase = .delivering r d := hphase
    rw [hphase] at hfinal
    cases hfinal

/-- The subscription of a consumer on the staff. -/
theorem Staffed.employed_of_source (h : Staffed w s) (here : s.consumers[i]? = some c)
    (source : c.source = .subscription id) : Employed w s.broker s.registry id c := by
  obtain ⟨id', hid'⟩ := h.employed i c here
  have hsame := hid'.source.symm.trans source
  cases hsame
  exact hid'

theorem Staffed.holds (h : Staffed w s) (hfits : s.broker.Fits)
    (here : s.consumers[i]? = some c) {r : Record} (hand : c.phase.inHand? = some r) :
    s.broker.Holds r := by
  obtain ⟨id, hid⟩ := h.employed i c here
  exact (h.lawful.holds hfits (hid.hand r hand)).2

/-- A step that changes neither the broker nor what the consumer has in hand. -/
theorem Staffed.put_phase (h : Staffed w s) (here : s.consumers[i]? = some c)
    (atWork : c.phase.isFinal = false) (upheld : s.broker.Upheld w.group b') {phase : Phase}
    (hand : phase.inHand? = c.phase.inHand?) (open_ : phase.isFinal = false)
    (delivery : ∀ r d, phase = .delivering r d → d.Sound s.registry c.listener.node.source r)
    {entries : List JournalEntry} {scheduler : Scheduler}
    (journal : b'.HoldsConcluded entries) :
    Staffed w (s.put b' i { c with phase := phase } entries scheduler) := by
  obtain ⟨id, hid⟩ := h.employed i c here
  refine h.put here atWork hid.source (upheld.onward c.topic id) (upheld.within (h.floor c.topic))
    ((hid.of_upheld upheld).of_phase atWork hand delivery) rfl journal ?_
  intro e hphase
  have hphase : phase = .ended (.error e) := hphase
  rw [hphase] at open_
  cases open_

theorem System.Shift.sound {l : Listener} {p p' : Phase} (shift : Shift l p p')
    (registry : Registry) (r : Record) (d : Delivery) (hd : p' = .delivering r d) :
    d.Sound registry l.node.source r := by
  cases shift with
  | hold r id => cases hd
  | beginReceived r =>
      cases hd
      trivial
  | beginHeld r id =>
      cases hd
      trivial
  | resume wake now => cases hd

/-- A consumer receives a record. -/
theorem Staffed.receive (h : Staffed w s) {since : Nat} {r : Record} {scheduler : Scheduler}
    (here : s.consumers[i]? = some c) (phase : c.phase = .polling since)
    (source : c.source = .subscription id) (received : (s.broker.receive id).1 = some r) :
    Staffed w (s.put (s.broker.receive id).2 i { c with phase := .received r } [] scheduler) := by
  have hid := h.employed_of_source here source
  have atWork : c.phase.isFinal = false := by
    rw [phase]
    rfl
  have hstill := Broker.still_receive s.broker id
  -- nothing is in hand, so what the subscription gives is the record at the floor
  have hserves := hid.serves atWork
  rw [phase] at hserves
  obtain ⟨hget, hserves'⟩ := hserves.receive_some received
  have honward := Broker.onward_receive s.broker w.group c.topic id
  have hemployed : Employed w (s.broker.receive id).2 s.registry id
      { c with phase := .received r } := by
    refine ⟨hid.group, hid.node, source, Nat.lt_of_lt_of_le hid.issued honward.issued, ?_, ?_, ?_⟩
    · intro _
      show (s.broker.receive id).2.Serves w.group c.topic id
        ((s.broker.receive id).2.floor w.group c.topic + 1)
      rw [hstill.floor]
      exact hserves'
    · intro r' hr'
      have hr' : some r = some r' := hr'
      cases hr'
      show ((s.broker.receive id).2.records c.topic)[(s.broker.receive id).2.floor w.group
        c.topic]? = some r
      rw [hstill.floor, hstill.records]
      exact hget
    · intro r' d hphase
      cases hphase
  refine h.put here atWork source honward ?_ hemployed rfl
    (System.plain_nil.holdsConcluded _) ?_
  · rw [hstill.floor, hstill.records]
    exact h.floor c.topic
  · intro e he
    cases he

/-- A consumer ends and gives up its subscription. -/
theorem Staffed.close (h : Staffed w s) (here : s.consumers[i]? = some c)
    (atWork : c.phase.isFinal = false) (source : c.source = .subscription id) {phase : Phase}
    (hfinal : phase.isFinal = true) {entries : List JournalEntry} {scheduler : Scheduler}
    (journal : s.broker.HoldsConcluded entries)
    (failure : ∀ e, phase = .ended (.error e) → ∃ time r,
      ⟨time, some i, .concluded r (.error e)⟩ ∈ entries ∧ c.phase.inHand? = some r) :
    Staffed w (s.put (s.broker.close id) i { c with phase := phase } entries scheduler) := by
  have hid := h.employed_of_source here source
  have honward := Broker.onward_close s.broker w.group c.topic id
  refine h.put here atWork source honward (h.floor c.topic)
    (hid.of_end honward.issued hfinal) rfl journal ?_
  intro e hphase
  obtain ⟨time, r, hmem, hr⟩ := failure e hphase
  exact ⟨time, r, List.mem_append_right _ hmem, hid.hand r hr⟩

/-- A committing consumer moves the floor of its topic on by one. -/
theorem Employed.commit (h : Employed w b registry id c) (hlawful : b.Lawful) (hfits : b.Fits)
    {r : Record} (phase : c.phase = .committing r) :
    ∃ offset, (b.commit id r.topic r.offset).2 = b.setCommitted w.group c.topic offset
      ∧ ∀ topic, (b.setCommitted w.group c.topic offset).floor w.group topic
        = b.floor w.group topic + if c.topic = topic then 1 else 0 := by
  have hhand := h.hand r (by rw [phase]; rfl)
  have hserves := h.serves (by rw [phase]; rfl)
  -- the broker commits the larger of two offsets, and the record lies at the floor
  rw [(hlawful.numbered _ _ r hhand).1, hserves.commit]
  refine ⟨_, rfl, fun topic => ?_⟩
  have hoffset := hlawful.numbered.toInt_offset hfits hhand
  have hlength := (List.getElem?_eq_some_iff.1 hhand).1
  have hsmall := hfits c.topic
  rw [Broker.floor_setCommitted_max hoffset (by omega)]
  by_cases htopic : topic = c.topic
  · subst htopic
    rw [if_pos rfl, if_pos rfl]
    omega
  · rw [if_neg htopic, if_neg fun heq => htopic heq.symm]
    omega

theorem Staffed.commit (h : Staffed w s) (hfits : s.broker.Fits) {r : Record} {time now : Nat}
    {ok : Bool} {scheduler : Scheduler} (here : s.consumers[i]? = some c)
    (phase : c.phase = .committing r) (source : c.source = .subscription id) :
    Staffed w (s.put (s.broker.commit id r.topic r.offset).2 i { c with phase := .polling now }
      [⟨time, some i, .committed r ok⟩] scheduler) := by
  have hid := h.employed_of_source here source
  obtain ⟨offset, hbroker, hfloor⟩ := hid.commit h.lawful hfits phase
  have hserves := hid.serves (by rw [phase]; rfl)
  have hheld : c.phase.held = 1 := by
    rw [phase]
    rfl
  -- the subscription was one ahead of the floor, which now catches up with it
  have hfloor := hfloor c.topic
  rw [if_pos rfl] at hfloor
  rw [hheld] at hserves
  rw [hbroker]
  have hemployed : Employed w (s.broker.setCommitted w.group c.topic offset) s.registry id
      { c with phase := .polling now } := by
    refine ⟨hid.group, hid.node, source, hid.issued, ?_, ?_, ?_⟩
    · intro _
      show (s.broker.setCommitted w.group c.topic offset).Serves w.group c.topic id
        ((s.broker.setCommitted w.group c.topic offset).floor w.group c.topic + 0)
      rw [hfloor]
      exact hserves.setCommitted _ _ _
    · intro r' hr'
      cases hr'
    · intro r' d hphase
      cases hphase
  refine h.put here (by rw [phase]; rfl) source (Broker.onward_setCommitted _ _ _ id _) ?_ hemployed
    rfl ?_ ?_
  · rw [hfloor]
    exact hserves.within
  · intro entry hentry r' result hevent
    rw [List.mem_singleton] at hentry
    rw [hentry] at hevent
    cases hevent
  · intro e he
    cases he

/-- Only the pairs of the last consumer are new. -/
theorem System.Pairs.concat {P : Consumer → Consumer → Prop} (h : s.Pairs P)
    (hconsumers : s'.consumers = s.consumers ++ [c])
    (last : ∀ (i : Nat) x, s.consumers[i]? = some x → P x c) : s'.Pairs P := by
  intro j k x y hjk hx hy
  rw [hconsumers] at hx hy
  rcases getElem?_concat_cases hx with ⟨rfl, _⟩ | ⟨_, hold⟩
  · rcases getElem?_concat_cases hy with ⟨rfl, _⟩ | ⟨hlt, _⟩
    · exact absurd hjk (Nat.lt_irrefl _)
    · exact absurd hlt (Nat.lt_asymm hjk)
  · rcases getElem?_concat_cases hy with ⟨_, rfl⟩ | ⟨_, hold'⟩
    · exact last j x hold
    · exact h j k x y hjk hold hold'

/-- A consumer that was just started has nothing in hand, and its subscription is at the floor. -/
theorem Employed.started (hlawful : b.Lawful) (hfits : b.Fits) {l : Listener} (handler : Handler)
    (now : Nat) (node : l.node ∈ w.nodes)
    (hfloor : b.floor w.group l.node.name ≤ (b.records l.node.name).length) :
    Employed w (b.subscribe l.node.name w.group).2 registry b.nextSubscription
      ⟨l, handler, w.group, .subscription b.nextSubscription, .polling now, false, .kept⟩ where
  group := rfl
  node := node
  source := rfl
  issued := by
    show b.nextSubscription < (b.createTopic l.node.name {}).nextSubscription + 1
    rw [(Broker.alike_createTopic b l.node.name {}).nextSubscription]
    omega
  serves := by
    intro _
    show (b.subscribe l.node.name w.group).2.Serves w.group l.node.name b.nextSubscription
      ((b.subscribe l.node.name w.group).2.floor w.group l.node.name + 0)
    rw [(Broker.upheld_subscribe hlawful.issued l.node.name w.group).floor]
    exact Broker.serves_subscribe hlawful hfits l.node.name w.group hfloor
  hand := fun r hr => by cases hr
  delivery := fun r d hphase => by cases hphase

/-- **A consumer is started** at a node at which nobody works any more. -/
theorem Staffed.start (h : Staffed w s) (hfits : s.broker.Fits) {l : Listener} {handler : Handler}
    (hok : s.start l handler w.group = .ok s') (node : l.node ∈ w.nodes)
    (free : ∀ c ∈ s.consumers, c.topic = l.node.name → c.phase.isFinal = true) :
    Staffed w s' := by
  have hs' := System.of_start hok
  have hupheld := Broker.upheld_subscribe h.lawful.issued l.node.name w.group
  subst hs'
  exact
    { inForce := h.inForce
      lawful := hupheld.lawful h.lawful
      floor := fun topic => hupheld.within (h.floor topic)
      employed := by
        intro j x hx
        rcases getElem?_concat_cases hx with ⟨_, rfl⟩ | ⟨_, hold⟩
        · exact ⟨_, .started h.lawful hfits handler s.now node (h.floor l.node.name)⟩
        · obtain ⟨id, hid⟩ := h.employed j x hold
          exact ⟨id, hid.of_upheld hupheld⟩
      apart := by
        apply h.apart.concat rfl
        intro j x hx heq
        -- no consumer before it has its subscription
        exact absurd (h.employed_of_source hx heq).issued (Nat.lt_irrefl _)
      sole := by
        apply h.sole.concat rfl
        intro j x hx hxc
        exact free x (List.mem_of_getElem? hx) hxc
      journal := h.journal.of_grown hupheld.records
      failures := by
        intro j x e hx hphase hlatest
        rcases getElem?_concat_cases hx with ⟨_, rfl⟩ | ⟨hlt, hold⟩
        · cases hphase
        · have hlatest' : s.IsLatest j x.topic := by
            intro k y hjk hy
            refine hlatest k y hjk ?_
            show (s.consumers ++ [_])[k]? = some y
            rw [List.getElem?_append_left (List.getElem?_eq_some_iff.1 hy).1]
            exact hy
          exact (h.failures j x e hold hphase hlatest').of_grown (List.prefix_refl _)
            hupheld.records (hupheld.floor x.topic) }

/-- The listener gives no error that its consumer would pass by. -/
theorem Staffed.stopsConsumer (h : Staffed w s) (here : s.consumers[i]? = some c) {r : Record}
    {e : Error} (phase : c.phase = .delivering r (.ended (.error e))) : e.stopsConsumer = true := by
  obtain ⟨id, hid⟩ := h.employed i c here
  exact hid.delivery r _ phase

/-- **Every turn that is permitted keeps the staff.** -/
theorem Staffed.of_turn (h : Staffed w s) (hfits : s.broker.Fits) {a : Action}
    (permits : w.Permits s a) (turn : s.Turn a s') : Staffed w s' := by
  have hnone : ∀ b : Broker, b.HoldsConcluded [] := System.plain_nil.holdsConcluded
  cases turn with
  | idle broker registry journal consumers =>
      exact h.of_upheld registry journal (.of_eq consumers) (broker.upheld w.group)
  | accepted r ok => exact h.of_upheld rfl rfl (.of_eq rfl) (Broker.upheld_publish w.group ok)
  | started l handler group ok =>
      obtain ⟨rfl, node, free⟩ := permits
      exact h.start hfits ok node free
  | flagged here listener group source phase =>
      refine h.of_upheld rfl ?_ (.put here ⟨listener, group, source, phase⟩ [] s.scheduler)
        ((Broker.Alike.refl s.broker).upheld w.group)
      exact List.append_nil s.journal
  | moved scheduler here shift =>
      exact h.put_phase here shift.isFinal.1 ((Broker.Alike.refl s.broker).upheld w.group)
        shift.inHand? shift.isFinal.2 (shift.sound s.registry) (hnone _)
  | polled here phase source received => exact h.receive here phase source received
  | @delivered i c r d d' choice stage entries here phase move broker plain unsettled =>
      obtain ⟨id, hid⟩ := h.employed i c here
      refine h.put_phase here (by rw [phase]; rfl) (broker.upheld w.group) (by rw [phase]; rfl) rfl
        ?_ (plain.holdsConcluded _)
      intro r' d'' hphase
      cases hphase
      exact move.sound (hid.delivery r d phase)
  | published here phase ok =>
      refine h.put_phase here (by rw [phase]; rfl) (Broker.upheld_publish w.group ok)
        (by rw [phase]; rfl) rfl ?_ (hnone _)
      intro r' d'' hphase
      cases hphase
      trivial
  | concluded here phase =>
      refine h.put_phase here (by rw [phase]; rfl) ((Broker.Alike.refl s.broker).upheld w.group)
        (by rw [phase]; rfl) rfl (fun r' d'' hphase => by cases hphase) ?_
      exact Broker.holdsConcluded_singleton (h.holds hfits here (by rw [phase]; rfl)) _ _ _
  | @failed i id c r e choice time here phase source stops =>
      refine h.close here (by rw [phase]; rfl) source rfl ?_ ?_
      · exact Broker.holdsConcluded_singleton (h.holds hfits here (by rw [phase]; rfl)) _ _ _
      · intro e' heq
        cases heq
        exact ⟨time, r, List.mem_singleton.2 rfl, by rw [phase]; rfl⟩
  | passedBy here phase goesOn =>
      rw [h.stopsConsumer here phase] at goesOn
      cases goesOn
  | committed here phase source => exact h.commit hfits here phase source
  | closed here closes source =>
      obtain ⟨hopen, hfinal, hclean⟩ := closes.isFinal
      exact h.close here hopen source hfinal (hnone _) (fun e he => absurd he (hclean e))

end Redelivery
