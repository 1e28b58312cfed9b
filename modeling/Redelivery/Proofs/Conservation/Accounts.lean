/-
  Redelivery.Proofs.Conservation.Accounts
  ───────────────────────────────────────
  **Every turn is an entry into the book, or none.**

  A topic is dealt with up to the record that its consumer has in hand as soon
  as a copy of that record is published, or as the listener is done with it:
  the commit that follows moves the floor, and the book stays as it is.

      reached = floor + (1 if the consumer is done and has not committed)
-/
import Redelivery.Proofs.Conservation.Ledger

namespace Redelivery

variable {w : Roster} {s s' : System} {b' : Broker} {i : Nat} {c c' : Consumer} {phase : Phase}
  {L : Ledger}

/-! ## §1. Who is done with a record. -/

theorem Phase.isSettled_of_isFinal {p : Phase} (h : p.isFinal = true) : p.isSettled = false := by
  cases p with
  | ended result => rfl
  | brokeDown => rfl
  | polling since => rfl
  | received r => rfl
  | pausing wake => rfl
  | holding r activation => rfl
  | delivering r d => cases h
  | committing r => cases h

namespace System

theorem settled_iff (topic : String) : s.settled topic = true
    ↔ ∃ (i : Nat) (c : Consumer), s.consumers[i]? = some c ∧ c.topic = topic
      ∧ c.phase.isSettled = true := by
  unfold settled
  rw [List.any_eq_true]
  constructor
  · rintro ⟨c, hmem, hc⟩
    obtain ⟨i, hi⟩ := List.mem_iff_getElem?.1 hmem
    rw [Bool.and_eq_true, beq_iff_eq] at hc
    exact ⟨i, c, hi, hc⟩
  · rintro ⟨i, c, hi, htopic, hsettled⟩
    refine ⟨c, List.mem_of_getElem? hi, ?_⟩
    rw [htopic, hsettled, beq_self_eq_true]
    rfl

/-- Where all others have ended, one consumer says whether its topic is settled. -/
theorem settled_eq (here : s.consumers[i]? = some c)
    (others : ∀ (j : Nat) x, i ≠ j → s.consumers[j]? = some x → x.topic = c.topic →
      x.phase.isFinal = true) : s.settled c.topic = c.phase.isSettled := by
  rw [Bool.eq_iff_iff, settled_iff]
  constructor
  · rintro ⟨j, x, hx, htopic, hsettled⟩
    by_cases hij : i = j
    · subst hij
      rw [here] at hx
      cases hx
      exact hsettled
    · rw [Phase.isSettled_of_isFinal (others j x hij hx htopic)] at hsettled
      cases hsettled
  · exact fun hsettled => ⟨i, c, here, rfl, hsettled⟩

theorem settled_put_other {topic : String} (here : s.consumers[i]? = some c)
    (hc : c.topic ≠ topic) (hc' : c'.topic ≠ topic) (entries : List JournalEntry)
    (scheduler : Scheduler) : (s.put b' i c' entries scheduler).settled topic = s.settled topic := by
  rw [Bool.eq_iff_iff, settled_iff, settled_iff]
  constructor
  · rintro ⟨j, x, hx, htopic, hsettled⟩
    rcases of_getElem?_put here hx with ⟨_, rfl⟩ | ⟨_, hold⟩
    · exact absurd htopic hc'
    · exact ⟨j, x, hold, htopic, hsettled⟩
  · rintro ⟨j, x, hx, htopic, hsettled⟩
    refine ⟨j, x, ?_, htopic, hsettled⟩
    rw [getElem?_put here, if_neg, hx]
    intro hij
    subst hij
    rw [here] at hx
    cases hx
    exact hc htopic

theorem SameStaff.settled (h : s.SameStaff s') (topic : String) :
    s'.settled topic = s.settled topic := by
  rw [Bool.eq_iff_iff, settled_iff, settled_iff]
  constructor
  · rintro ⟨j, x, hx, htopic, hsettled⟩
    obtain ⟨y, hy, hsame⟩ := h.back j x hx
    rw [hsame.topic] at htopic
    rw [hsame.phase] at hsettled
    exact ⟨j, y, hy, htopic, hsettled⟩
  · rintro ⟨j, y, hy, htopic, hsettled⟩
    obtain ⟨x, hx, hsame⟩ := h.forth j y hy
    rw [← hsame.topic] at htopic
    rw [← hsame.phase] at hsettled
    exact ⟨j, x, hx, htopic, hsettled⟩

end System

/-- How far topics are dealt with after a step that moves its own topic on by `n`. -/
theorem Staffed.reached_put (h : Staffed w s) (here : s.consumers[i]? = some c)
    (atWork : c.phase.isFinal = false) {n : Nat} {entries : List JournalEntry}
    {scheduler : Scheduler} (L' : Ledger)
    (hother : ∀ t, t ≠ c.topic → b'.floor w.group t = s.broker.floor w.group t)
    (hown : b'.floor w.group c.topic + phase.isSettled.toNat
      = s.broker.floor w.group c.topic + c.phase.isSettled.toNat + n) :
    (L'.book (s.put b' i { c with phase := phase } entries scheduler) w.group).reached
      = fun t => (L.book s w.group).reached t + if c.topic = t then n else 0 := by
  -- nobody else is at work at the topic, before the step or after it
  have hnow : s.settled c.topic = c.phase.isSettled := by
    refine System.settled_eq here fun j x hij hx heq => ?_
    exact (h.isFinal_of_topic hij here hx heq.symm atWork).1
  have hthen : (s.put b' i { c with phase := phase } entries scheduler).settled c.topic
      = phase.isSettled := by
    refine System.settled_eq (i := i) (c := { c with phase := phase })
      (System.getElem?_put_self here) ?_
    intro j x hij hx heq
    rw [System.getElem?_put here, if_neg hij] at hx
    exact (h.isFinal_of_topic hij here hx heq.symm atWork).1
  funext t
  show b'.floor w.group t
      + ((s.put b' i { c with phase := phase } entries scheduler).settled t).toNat
    = s.broker.floor w.group t + (s.settled t).toNat + _
  by_cases heq : c.topic = t
  · subst heq
    rw [if_pos rfl, hthen, hnow]
    exact hown
  · have hnext : ({ c with phase := phase } : Consumer).topic ≠ t := heq
    have hkept : (s.put b' i { c with phase := phase } entries scheduler).settled t
        = s.settled t := System.settled_put_other here heq hnext entries scheduler
    rw [if_neg heq, hother t fun h => heq h.symm, hkept]
    rfl

/-! ## §2. Entries. -/

theorem Ledger.endings_singleton (L : Ledger) (entry : JournalEntry) (p : Place) :
    L.endings [entry] p = (L.ending? p entry).toList := by
  unfold endings
  rw [List.filterMap_cons]
  cases L.ending? p entry with
  | none => rfl
  | some outcome => rfl

/-- The record in hand is the next of its topic. -/
theorem Staffed.next (h : Staffed w s) (hfits : s.broker.Fits) (hcovers : L.Covers s.broker)
    (here : s.consumers[i]? = some c) {r : Record} (hand : c.phase.inHand? = some r) :
    ∃ p, L.origin? r = some p
      ∧ (L.copies c.topic)[s.broker.floor w.group c.topic]? = some p := by
  obtain ⟨id, hid⟩ := h.employed i c here
  have hr := hid.hand r hand
  have hlt : s.broker.floor w.group c.topic < (L.copies c.topic).length := by
    rw [hcovers]
    exact (List.getElem?_eq_some_iff.1 hr).1
  refine ⟨_, ?_, List.getElem?_eq_getElem hlt⟩
  unfold Ledger.origin?
  rw [(h.lawful.holds hfits hr).1, (h.lawful.numbered _ _ _ hr).1]
  exact List.getElem?_eq_getElem hlt

/-- What a consumer is about to publish is a copy of the record in hand, for a topic of its chain. -/
theorem Staffed.copyFor (h : Staffed w s) (here : s.consumers[i]? = some c) {r : Record}
    {out : OutgoingRecord} {outcome : Outcome} {failures wake : Nat}
    (phase : c.phase = .delivering r (.publishing out outcome failures wake)) :
    CopyFor s.registry c.listener.node.source r out outcome := by
  obtain ⟨id, hid⟩ := h.employed i c here
  exact hid.delivery r _ phase

/-- Its copies are copies of the same record. -/
theorem Ledger.source?_proceed (L : Ledger) (here : s.consumers[i]? = some c) {r : Record}
    (hand : c.phase.inHand? = some r) (choice : Choice) :
    L.source? s (.proceed i choice) = L.origin? r := by
  show ((s.consumers[i]?).bind fun c => c.phase.inHand?).bind L.origin? = _
  rw [here, Option.bind_some, hand, Option.bind_some]

theorem Staffed.reached_eq (h : Staffed w s) (here : s.consumers[i]? = some c)
    (atWork : c.phase.isFinal = false) :
    (L.book s w.group).reached c.topic
      = s.broker.floor w.group c.topic + c.phase.isSettled.toNat := by
  show s.broker.floor w.group c.topic + (s.settled c.topic).toNat = _
  rw [System.settled_eq here fun j x hij hx heq =>
    (h.isFinal_of_topic hij here hx heq.symm atWork).1]

/-- **A step that brings its topic no further makes no entry.** -/
theorem Staffed.book_put (h : Staffed w s) (here : s.consumers[i]? = some c)
    (atWork : c.phase.isFinal = false) {entries : List JournalEntry} {scheduler : Scheduler} (a : Action)
    (records : ∀ t, b'.records t = s.broker.records t)
    (hother : ∀ t, t ≠ c.topic → b'.floor w.group t = s.broker.floor w.group t)
    (hown : b'.floor w.group c.topic + phase.isSettled.toNat
      = s.broker.floor w.group c.topic + c.phase.isSettled.toNat)
    (hends : ∀ p, L.endings entries p = []) :
    let s' := s.put b' i { c with phase := phase } entries scheduler
    (L.after s a s').book s' w.group = L.book s w.group := by
  intro s'
  have hledger : L.after s a s' = L := Ledger.grown_of_records records
  rw [hledger]
  ext1
  · rfl
  · rw [h.reached_put (L := L) here atWork L hother (n := 0) hown]
    funext t
    split <;> rfl
  · funext p
    show L.endings (s.journal ++ entries) p = L.endings s.journal p
    rw [Ledger.endings_append, hends, List.append_nil]

/-- A copy is published: the record in hand is forwarded. -/
theorem Staffed.entry_published (h : Staffed w s) (hfits : s.broker.Fits)
    (hcovers : L.Covers s.broker) {r : Record} {out : OutgoingRecord} {outcome : Outcome}
    {failures wake : Nat} (choice : Choice) (here : s.consumers[i]? = some c)
    (phase : c.phase = .delivering r (.publishing out outcome failures wake))
    (ok : (s.broker.publish out s.clock.wall).1 = .ok ()) :
    let s' := s.put (s.broker.publish out s.clock.wall).2 i
      { c with phase := .delivering r (.ended (.ok outcome)) } [] s.scheduler
    (L.book s w.group).Entry (w.Linked s.registry) ((L.after s (.proceed i choice) s').book s' w.group) := by
  intro s'
  obtain ⟨id, hid⟩ := h.employed i c here
  have hcopy := h.copyFor here phase
  obtain ⟨hsource, hnode⟩ := h.inForce.sound c.listener.node hid.node
  have atWork : c.phase.isFinal = false := by
    rw [phase]
    rfl
  have hand : c.phase.inHand? = some r := by
    rw [phase]
    rfl
  have hbefore : c.phase.isSettled = false := by
    rw [phase]
    rfl
  obtain ⟨p, horigin, hnext⟩ := h.next hfits hcovers here hand
  have hupheld := Broker.upheld_publish w.group ok
  have horigin' := (L.source?_proceed here hand choice).trans horigin
  -- the topic counts as dealt with from now on, although nothing is committed yet
  have hbook : (L.after s (.proceed i choice) s').book s' w.group
      = ((L.book s w.group).pass c.topic).add out.topic p := by
    ext1
    · funext t
      show (L.grown s.broker (s.broker.publish out s.clock.wall).2
        (L.source? s (.proceed i choice))).copies t = _
      rw [Ledger.grown_of_publish hcovers ok, horigin']
      rfl
    · refine h.reached_put here atWork _ (fun t _ => hupheld.floor t) (n := 1) ?_
      show _ + outcome.isCopy.toNat = _
      rw [hupheld.floor, hcopy.isCopy, hbefore]
      rfl
    · funext q
      show (L.grown s.broker _ _).endings (s.journal ++ []) q = L.endings s.journal q
      rw [List.append_nil, Ledger.endings_grown hcovers h.journal]
  rw [hbook]
  refine .forwarded ?_ ⟨_, hsource, hnode, hcopy.reaches⟩
  rw [h.reached_eq here atWork, hbefore]
  exact hnext

/-- The listener is done with the record in hand: it ends, unless a copy was published. -/
theorem Staffed.entry_concluded (h : Staffed w s) (hfits : s.broker.Fits)
    (hcovers : L.Covers s.broker) {r : Record} {outcome : Outcome} (choice : Choice) {time : Nat}
    (here : s.consumers[i]? = some c) (phase : c.phase = .delivering r (.ended (.ok outcome)))
    (final : outcome.isCopy = false) :
    let s' := s.put s.broker i { c with phase := .committing r }
      [⟨time, some i, .concluded r (.ok outcome)⟩] s.scheduler
    (L.book s w.group).Entry (w.Linked s.registry) ((L.after s (.proceed i choice) s').book s' w.group) := by
  intro s'
  have atWork : c.phase.isFinal = false := by
    rw [phase]
    rfl
  have hbefore : c.phase.isSettled = false := by
    rw [phase]
    exact final
  obtain ⟨p, horigin, hnext⟩ := h.next hfits hcovers here (by rw [phase]; rfl)
  have hledger : L.after s (.proceed i choice) s' = L := Ledger.grown_of_records fun _ => rfl
  have hbook : L.book s' w.group = ((L.book s w.group).pass c.topic).close p outcome := by
    ext1
    · rfl
    · refine h.reached_put here atWork L (fun _ _ => rfl) (n := 1) ?_
      rw [hbefore]
      rfl
    · funext q
      show L.endings (s.journal ++ [_]) q = L.endings s.journal q ++ _
      rw [Ledger.endings_append, Ledger.endings_singleton]
      congr 1
      show (if outcome.isCopy = false ∧ L.origin? r = some q then some outcome else none).toList
        = _
      rw [horigin]
      by_cases hpq : p = q
      · rw [if_pos ⟨final, congrArg some hpq⟩, if_pos hpq]
        rfl
      · rw [if_neg fun h => hpq (Option.some.inj h.2), if_neg hpq]
        rfl
  rw [hledger, hbook]
  refine .ended ?_ final
  rw [h.reached_eq here atWork, hbefore]
  exact hnext

/-- A step that leaves logs and floors alone, and its consumer as far as it was. -/
theorem Staffed.book_still (h : Staffed w s) (here : s.consumers[i]? = some c)
    (atWork : c.phase.isFinal = false) {entries : List JournalEntry} {scheduler : Scheduler} (a : Action) (still : s.broker.Still b')
    (hsettled : phase.isSettled = c.phase.isSettled) (hends : ∀ p, L.endings entries p = []) :
    let s' := s.put b' i { c with phase := phase } entries scheduler
    (L.after s a s').book s' w.group = L.book s w.group := by
  intro s'
  refine h.book_put here atWork a still.records (fun t _ => still.floor w.group t) ?_ hends
  rw [still.floor, hsettled]

/-- Nothing happens that would be entered. -/
theorem Ledger.book_same (a : Action) (group : String) (still : s.broker.Still s'.broker)
    (journal : s'.journal = s.journal) (settled : ∀ t, s'.settled t = s.settled t) :
    (L.after s a s').book s' group = L.book s group := by
  have hledger : L.after s a s' = L := grown_of_records still.records
  rw [hledger]
  ext1
  · rfl
  · funext t
    show s'.broker.floor group t + (s'.settled t).toNat = _
    rw [still.floor, settled]
    rfl
  · show L.endings s'.journal = L.endings s.journal
    rw [journal]

/-- A record from outside is accepted. -/
theorem Ledger.entry_accepted {way : String → String → Prop} (group : String) (hcovers : L.Covers s.broker)
    (hjournal : s.broker.HoldsConcluded s.journal) {r : OutgoingRecord} (ok : (s.broker.publish r s.clock.wall).1 = .ok ()) :
    let s' : System := { s with broker := (s.broker.publish r s.clock.wall).2 }
    (L.book s group).Entry way ((L.after s (.publish r) s').book s' group) := by
  intro s'
  have hbook : (L.after s (.publish r) s').book s' group
      = (L.book s group).add r.topic ((L.book s group).back r.topic) := by
    ext1
    · funext t
      show (L.grown s.broker (s.broker.publish r s.clock.wall).2 none).copies t = _
      rw [grown_of_publish hcovers ok]
      by_cases htopic : r.topic = t
      · subst htopic
        rfl
      · rw [if_neg htopic]
        show _ = L.copies t ++ (if r.topic = t then _ else _)
        rw [if_neg htopic]
    · funext t
      show (s.broker.publish r s.clock.wall).2.floor group t + _ = _
      rw [(Broker.upheld_publish group ok).floor]
      rfl
    · funext q
      exact endings_grown hcovers hjournal q
  rw [hbook]
  exact .accepted r.topic

/-- A new consumer is done with nothing. -/
theorem System.settled_start {l : Listener} {handler : Handler} {group : String}
    (ok : s.start l handler group = .ok s') (topic : String) :
    s'.settled topic = s.settled topic := by
  rw [of_start ok]
  show (s.consumers ++ [_]).any _ = _
  rw [List.any_append]
  simp [settled, Phase.isSettled]

/-- A move that publishes no copy leaves the record to be dealt with. -/
theorem Delivery.Move.unsettled {consumer : Option Nat} {l : Listener} {h : Handler} {r : Record}
    {choice : Choice} {stage stage' : Stage} {d d' : Delivery}
    (move : Move consumer l h r choice stage d stage' d')
    (unsettled : ∀ outcome, d' = .ended (.ok outcome) → outcome.isCopy = false) :
    (Phase.delivering r d').isSettled = (Phase.delivering r d).isSettled := by
  have hafter : (Phase.delivering r d').isSettled = false := by
    cases hd : d' with
    | ended result =>
        cases result with
        | ok outcome => exact unsettled outcome hd
        | error e => rfl
    | calling attempt => rfl
    | handling attempt result wake => rfl
    | resting attempt wake => rfl
    | publishing out outcome failures wake => rfl
    | brokeDown => rfl
  rw [hafter]
  cases move with
  | called attempt => rfl
  | succeeded due => rfl
  | brokeDown due => rfl
  | again due verdict => rfl
  | finished due verdict => rfl
  | republishing due verdict => rfl
  | rested due => rfl
  | published due answer => rfl
  | refused due answer left => rfl
  | gaveUp due answer left => rfl

/-- **Every turn is an entry into the book, or none.** -/
theorem Staffed.entry_of_turn (h : Staffed w s) (hfits : s.broker.Fits)
    (hcovers : L.Covers s.broker) {a : Action} (permits : w.Permits s a) (turn : s.Turn a s') :
    (L.after s a s').book s' w.group = L.book s w.group
      ∨ (L.book s w.group).Entry (w.Linked s.registry) ((L.after s a s').book s' w.group) := by
  have hstill : s.broker.Still s.broker := ⟨fun _ => rfl, rfl⟩
  cases turn with
  | idle broker registry journal consumers =>
      exact Or.inl (Ledger.book_same a w.group broker.toStill journal
        (System.SameStaff.of_eq consumers).settled)
  | accepted r ok => exact Or.inr (Ledger.entry_accepted w.group hcovers h.journal ok)
  | started l handler group ok =>
      refine Or.inl (Ledger.book_same _ w.group ?_ ?_ (System.settled_start ok))
      · rw [System.of_start ok]
        exact Broker.still_subscribe s.broker l.node.name group
      · rw [System.of_start ok]
  | flagged here listener group source phase =>
      have hsame := System.SameStaff.put (b := s.broker) here ⟨listener, group, source, phase⟩ []
        s.scheduler
      exact Or.inl (Ledger.book_same a w.group hstill (List.append_nil s.journal) hsame.settled)
  | moved scheduler here shift =>
      exact Or.inl (h.book_still here shift.isFinal.1 a hstill shift.isSettled fun _ => rfl)
  | polled here phase source received =>
      exact Or.inl (h.book_still here (by rw [phase]; rfl) a (Broker.still_receive _ _)
        (by rw [phase]; rfl) fun _ => rfl)
  | delivered here phase move broker plain unsettled =>
      refine Or.inl (h.book_still here (by rw [phase]; rfl) _ broker.toStill ?_
        (Ledger.endings_of_plain plain))
      rw [phase]
      exact move.unsettled unsettled
  | published here phase ok => exact Or.inr (h.entry_published hfits hcovers _ here phase ok)
  | @concluded i c r outcome choice time here phase =>
      cases final : outcome.isCopy with
      | true =>
          refine Or.inl (h.book_still here (by rw [phase]; rfl) _ hstill ?_ ?_)
          · rw [phase]
            exact final.symm
          · intro p
            rw [Ledger.endings_singleton]
            show (if outcome.isCopy = false ∧ _ then some outcome else none).toList = []
            rw [final, if_neg fun h => Bool.noConfusion h.1]
            rfl
      | false => exact Or.inr (h.entry_concluded hfits hcovers choice here phase final)
  | failed here phase source stops =>
      exact Or.inl (h.book_still here (by rw [phase]; rfl) _ (Broker.still_close _ _)
        (by rw [phase]; rfl) fun _ => rfl)
  | passedBy here phase goesOn =>
      rw [h.stopsConsumer here phase] at goesOn
      cases goesOn
  | @committed i id c r choice time now ok here phase source =>
      -- the floor moves over the record that the consumer was done with
      have hid := h.employed_of_source here source
      obtain ⟨offset, hbroker, hfloor⟩ := hid.commit h.lawful hfits phase
      rw [hbroker]
      refine Or.inl (h.book_put here (by rw [phase]; rfl) _ (fun _ => rfl) ?_ ?_ fun _ => rfl)
      · intro t ht
        rw [hfloor, if_neg fun heq => ht heq.symm]
        rfl
      · rw [hfloor, if_pos rfl, phase]
        rfl
  | closed here closes source =>
      exact Or.inl (h.book_still here closes.isFinal.1 a (Broker.still_close _ _)
        closes.isSettled fun _ => rfl)

/-! ## §3. Copies are copies. -/

/-- Somewhere on its topic the record `p` lies with this key and this value. -/
def Broker.HasAt (b : Broker) (p : Place) (key value : Option Bytes) : Prop :=
  ∃ r, (b.records p.topic)[p.offset]? = some r ∧ r.key = key ∧ r.value = value

/-- Every copy has the key and the value of the record that was accepted. -/
def Ledger.Faithful (L : Ledger) (b : Broker) : Prop :=
  ∀ (topic : String) (k : Nat) (p : Place) (r : Record), (L.copies topic)[k]? = some p →
    (b.records topic)[k]? = some r → b.HasAt p r.key r.value

theorem Broker.HasAt.of_grown {b b' : Broker} {p : Place} {key value : Option Bytes}
    (h : b.HasAt p key value) (hrecords : ∀ topic, b.records topic <+: b'.records topic) :
    b'.HasAt p key value := by
  obtain ⟨r, hr, hboth⟩ := h
  exact ⟨r, getElem?_of_grown (hrecords p.topic) hr, hboth⟩

/-- A record is published, as one of its own or as a copy. -/
theorem Ledger.Faithful.publish {b : Broker} {out : OutgoingRecord} {now : Int64}
    {source : Option Place} (h : L.Faithful b) (hcovers : L.Covers b)
    (ok : (b.publish out now).1 = .ok ())
    (hsource : ∀ p, source = some p → b.HasAt p out.key out.value) :
    (L.grown b (b.publish out now).2 source).Faithful (b.publish out now).2 := by
  have hgrown := (Broker.upheld_publish "" ok).records
  intro topic k p r hp hr
  rw [grown_of_publish hcovers ok] at hp
  rw [Broker.records_publish ok] at hr
  by_cases htopic : out.topic = topic
  · subst htopic
    rw [if_pos rfl] at hp hr
    rcases getElem?_concat_cases hp with ⟨rfl, hnew⟩ | ⟨hlt, hold⟩
    · rw [hcovers, List.getElem?_concat_length] at hr
      cases hr
      cases source with
      | some p' =>
          cases hnew
          exact (hsource _ rfl).of_grown hgrown
      | none =>
          -- a record of its own is the one that lies there
          cases hnew
          refine ⟨_, ?_, rfl, rfl⟩
          show ((b.publish out now).2.records out.topic)[(L.copies out.topic).length]? = _
          rw [Broker.records_publish ok, if_pos rfl, hcovers]
          exact List.getElem?_concat_length
    · rw [hcovers] at hlt
      rw [List.getElem?_append_left hlt] at hr
      exact (h out.topic k p r hold hr).of_grown hgrown
  · rw [if_neg htopic, List.append_nil] at hp hr
    exact (h topic k p r hp hr).of_grown hgrown

theorem Ledger.Faithful.of_records {b b' : Broker} {source : Option Place} (h : L.Faithful b)
    (hrecords : ∀ topic, b'.records topic = b.records topic) :
    (L.grown b b' source).Faithful b' := by
  rw [grown_of_records hrecords]
  intro topic k p r hp hr
  rw [hrecords] at hr
  obtain ⟨r₀, hr₀, hboth⟩ := h topic k p r hp hr
  refine ⟨r₀, ?_, hboth⟩
  rw [hrecords]
  exact hr₀

/-- **Every turn keeps keys and values.** -/
theorem Staffed.faithful_of_turn (h : Staffed w s) (hfits : s.broker.Fits)
    (hcovers : L.Covers s.broker) (hfaithful : L.Faithful s.broker) {a : Action}
    (turn : s.Turn a s') : (L.after s a s').Faithful s'.broker := by
  cases turn with
  | idle broker registry journal consumers => exact hfaithful.of_records broker.records
  | accepted r ok => exact hfaithful.publish hcovers ok fun p hp => by cases hp
  | started l handler group ok =>
      apply hfaithful.of_records
      rw [System.of_start ok]
      exact (Broker.still_subscribe s.broker l.node.name group).records
  | flagged here listener group source phase => exact hfaithful.of_records fun _ => rfl
  | moved scheduler here shift => exact hfaithful.of_records fun _ => rfl
  | polled here phase source received =>
      exact hfaithful.of_records (Broker.still_receive _ _).records
  | delivered here phase move broker plain unsettled => exact hfaithful.of_records broker.records
  | @published i c r out outcome failures wake choice here phase ok =>
      refine hfaithful.publish hcovers ok fun p hp => ?_
      -- the copy is one of the record in hand, which is a copy itself
      have hand : c.phase.inHand? = some r := by
        rw [phase]
        rfl
      have hcopy := h.copyFor here phase
      have horigin : L.origin? r = some p := (L.source?_proceed here hand choice).symm.trans hp
      rw [hcopy.key, hcopy.value]
      exact hfaithful _ _ p r horigin (h.holds hfits here hand)
  | concluded here phase => exact hfaithful.of_records fun _ => rfl
  | failed here phase source stops => exact hfaithful.of_records fun _ => rfl
  | passedBy here phase goesOn => exact hfaithful.of_records fun _ => rfl
  | @committed i id c r choice time now ok here phase source =>
      obtain ⟨offset, hbroker, _⟩ :=
        (h.employed_of_source here source).commit h.lawful hfits phase
      apply hfaithful.of_records
      show ∀ topic, (s.broker.commit id r.topic r.offset).2.records topic = _
      rw [hbroker]
      exact fun _ => rfl
  | closed here closes source => exact hfaithful.of_records fun _ => rfl

end Redelivery
