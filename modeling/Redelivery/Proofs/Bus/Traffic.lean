/-
  Redelivery.Proofs.Bus.Traffic
  ─────────────────────────────
  **The delivery law of the broker.**

  Traffic is a broker with everybody who ever opened a subscription: where it
  starts, and what it has received.  Logs, layouts and committed offsets only
  grow, and an open subscription has received a part of its log from the front
  and serves the rest:

      log from the start  =  received  ++  inbox

  so there is neither a gap nor a repetition where what was published before
  the subscription ends and what is published later begins.
-/
import Mathlib.Data.List.Infix
import Redelivery.Proofs.Bus.Upkeep

namespace Redelivery

/-! ## §1. Brokers that only grow. -/

namespace Broker

variable {b b' : Broker}

/-- Logs grow at the end, topics keep their layouts, and no group goes back. -/
structure Grows (b b' : Broker) : Prop where
  records : ∀ topic, b.records topic <+: b'.records topic
  layout : ∀ topic l, b.layout? topic = some l → b'.layout? topic = some l
  committed : ∀ group topic c, b.committed? group topic = some c →
    ∃ c', b'.committed? group topic = some c' ∧ c ≤ c'

theorem Grows.refl (b : Broker) : Grows b b where
  records := fun _ => List.prefix_rfl
  layout := fun _ _ h => h
  committed := fun _ _ c h => ⟨c, h, Int64.le_refl c⟩

theorem Grows.trans {b'' : Broker} (h : Grows b b') (h' : Grows b' b'') : Grows b b'' where
  records := fun topic => (h.records topic).trans (h'.records topic)
  layout := fun topic l hl => h'.layout topic l (h.layout topic l hl)
  committed := by
    intro group topic c hc
    obtain ⟨c', hc', hle⟩ := h.committed group topic c hc
    obtain ⟨c'', hc'', hle'⟩ := h'.committed group topic c' hc'
    exact ⟨c'', hc'', Int64.le_trans hle hle'⟩

/-- What neither publishes nor commits. -/
theorem Still.grows (h : Still b b')
    (hlayout : ∀ topic l, b.layout? topic = some l → b'.layout? topic = some l) : Grows b b' where
  records := fun topic => grown_of_eq (h.records topic)
  layout := hlayout
  committed := by
    intro group topic c hc
    refine ⟨c, ?_, Int64.le_refl c⟩
    unfold committed? at hc ⊢
    rw [h.committed]
    exact hc

/-- Where the topics are the same, so are their layouts. -/
theorem layout?_of_topics (h : b'.topics = b.topics) (topic : String) :
    b'.layout? topic = b.layout? topic := by
  unfold layout? log?
  rw [h]

/-- **Creating a topic leaves the layouts of the others, and its own if it exists.** -/
theorem layout?_createTopic_of_some {name topic : String} {layout l : Layout}
    (h : b.layout? topic = some l) : (b.createTopic name layout).layout? topic = some l := by
  cases hname : b.hasTopic name with
  | true => rw [createTopic_of_hasTopic layout hname, h]
  | false =>
      obtain ⟨log, hlog, hlayout⟩ := Option.map_eq_some_iff.1 h
      unfold layout? log? at *
      rw [topics_createTopic layout hname, List.find?_append, hlog]
      exact congrArg some hlayout

/-- Records are put into logs, and layouts stay. -/
theorem layout?_append (r : OutgoingRecord) (now : Int64) (topic : String) :
    (b.append r now).layout? topic = b.layout? topic := by
  unfold layout? log? append
  rw [find?_appendTo, Option.map_map]
  congr 1
  funext t
  show (if topic = r.topic then _ else t : TopicLog).layout = t.layout
  split <;> rfl

/-- Creating a topic changes neither logs nor layouts that are there. -/
theorem grows_createTopic (b : Broker) (name : String) (layout : Layout) :
    Grows b (b.createTopic name layout) :=
  (alike_createTopic b name layout).toStill.grows fun _ _ h => layout?_createTopic_of_some h

/-- However far a list of requests gets, logs only grow. -/
theorem grows_createIfAbsent (b : Broker) (requests : List TopicRequest) :
    Grows b (b.createIfAbsent requests).2 := by
  induction requests generalizing b with
  | nil => exact .refl b
  | cons r rest ih =>
      unfold createIfAbsent
      split
      · exact .refl b
      · exact (grows_createTopic b r.name r.layout).trans (ih _)

/-- A publish adds one record at most. -/
theorem grows_publish (b : Broker) (out : OutgoingRecord) (now : Int64) :
    Grows b (b.publish out now).2 := by
  cases hanswer : (b.publish out now).1 with
  | error e =>
      refine (alike_publish_of_error hanswer).toStill.grows fun topic l h => ?_
      rw [layout?_of_topics (topics_publish_of_error hanswer), h]
  | ok _ =>
      have hcreated := grows_createTopic b out.topic {}
      rw [publish_of_ok hanswer]
      refine ⟨?_, ?_, hcreated.committed⟩
      · intro topic
        show _ <+: ((b.createTopic out.topic {}).append out now).records topic
        rw [records_append (hasTopic_createTopic out.topic {}), records_createTopic]
        exact List.prefix_append _ _
      · intro topic l h
        exact (layout?_append out now topic).trans (hcreated.layout topic l h)

theorem grows_subscribe (b : Broker) (topic group : String) :
    Grows b (b.subscribe topic group).2 :=
  (still_subscribe b topic group).grows fun t l h => (grows_createTopic b topic {}).layout t l h

theorem topics_receive (b : Broker) (id : Nat) : (b.receive id).2.topics = b.topics := by
  rcases receive_eq b id with h | ⟨s, r, rest, _, _, h⟩
  · rw [h]
  · rw [h]

/-- To receive changes no log. -/
theorem grows_receive (b : Broker) (id : Nat) : Grows b (b.receive id).2 :=
  (still_receive b id).grows fun topic l h => by rw [layout?_of_topics (topics_receive b id), h]

theorem grows_close (b : Broker) (id : Nat) : Grows b (b.close id) :=
  (still_close b id).grows fun _ _ h => h

/-! ## §2. Committed offsets. -/

/-- Every committed offset lies within its log. -/
def CommitsWithin (b : Broker) : Prop :=
  ∀ group topic c, b.committed? group topic = some c →
    0 ≤ c.toInt ∧ c.toInt ≤ (b.records topic).length

/-- No floor lies beyond the end of its log. -/
theorem CommitsWithin.floor_le (h : b.CommitsWithin) (group topic : String) :
    b.floor group topic ≤ (b.records topic).length := by
  unfold floor
  cases hc : b.committed? group topic with
  | none => exact Nat.zero_le _
  | some c =>
      have hwithin := (h group topic c hc).2
      show c.toInt.toNat ≤ _
      omega

/-- The offset that a group wants next, or zero, lies within the log. -/
theorem CommitsWithin.getD (h : b.CommitsWithin) (group topic : String) :
    0 ≤ ((b.committed? group topic).getD 0).toInt
      ∧ ((b.committed? group topic).getD 0).toInt ≤ (b.records topic).length := by
  cases hc : b.committed? group topic with
  | none => exact ⟨Int.le_refl 0, Int.natCast_nonneg _⟩
  | some c => exact h group topic c hc

theorem CommitsWithin.of_still (h : b.CommitsWithin) (hcommitted : b'.committed = b.committed)
    (hrecords : ∀ topic, b.records topic <+: b'.records topic) : b'.CommitsWithin := by
  intro group topic c hc
  unfold committed? at hc
  rw [hcommitted] at hc
  obtain ⟨hzero, hle⟩ := h group topic c hc
  have hgrown := (hrecords topic).length_le
  omega

/-- **A record of the log may be committed.** -/
theorem CommitsWithin.setCommitted (h : b.CommitsWithin) {group topic : String} {offset : Int64} {k : Nat}
    (hoffset : offset.toInt = k) (hk : k < (b.records topic).length) (hfits : b.Fits) :
    (b.setCommitted group topic (max ((b.committed? group topic).getD 0) (offset + 1))).CommitsWithin := by
  have hsucc := toInt_offset_succ hoffset (Nat.lt_of_le_of_lt hk (hfits topic))
  intro group' topic' c hc
  show 0 ≤ c.toInt ∧ c.toInt ≤ ((b.records topic').length : Int)
  by_cases hkey : group' = group ∧ topic' = topic
  · obtain ⟨rfl, rfl⟩ := hkey
    rw [committed?_setCommitted, if_pos rfl] at hc
    cases hc
    obtain ⟨hzero, hle⟩ := h.getD group' topic'
    rw [toInt_max, hsucc]
    omega
  · rw [committed?_setCommitted_other hkey] at hc
    exact h group' topic' c hc

/-- **No group goes back.** -/
theorem grows_setCommitted_max (b : Broker) (group topic : String) (offset : Int64) :
    Grows b (b.setCommitted group topic (max ((b.committed? group topic).getD 0) offset)) where
  records := fun _ => List.prefix_rfl
  layout := fun _ _ h => h
  committed := by
    intro group' topic' c hc
    by_cases hkey : group' = group ∧ topic' = topic
    · obtain ⟨rfl, rfl⟩ := hkey
      refine ⟨_, by rw [committed?_setCommitted, if_pos rfl], ?_⟩
      rw [hc, Int64.le_iff_toInt_le, toInt_max]
      exact Int.le_max_left _ _
    · exact ⟨c, by rw [committed?_setCommitted_other hkey, hc], Int64.le_refl c⟩

/-- A commit changes no log. -/
theorem grows_commit (b : Broker) (id : Nat) (topic : String) (offset : Int64) :
    Grows b (b.commit id topic offset).2 := by
  unfold Broker.commit
  split
  · exact .refl b
  · split
    · exact .refl b
    · exact grows_setCommitted_max b _ _ _

end Broker

/-! ## §3. Clients. -/

/-- What a client can do with the broker. -/
inductive ClientCall where
  | publish (out : OutgoingRecord) (now : Int64)
  /-- The next publishes are made to fail. -/
  | failNext (count : Nat)
  | createTopic (name : String) (layout : Layout)
  | createIfAbsent (requests : List TopicRequest)
  | subscribe (topic group : String)
  | receive (id : Nat)
  /-- A record that was received is committed. -/
  | commit (id : Nat) (r : Record)
  | close (id : Nat)
  deriving DecidableEq, Repr

/-- Somebody who opened a subscription. -/
structure Reader where
  topic : String
  group : String
  /-- The committed offset of the group when the subscription was opened, or zero. -/
  start : Int64
  /-- What was received, oldest first. -/
  received : List Record := []
  /-- The subscription has been given up. -/
  closed : Bool := false
  deriving DecidableEq, Repr, Inhabited

/-- The reader receives what there is. -/
def Reader.receive (reader : Reader) (r : Option Record) : Reader :=
  { reader with received := reader.received ++ r.toList }

/-- The reader gives up its subscription. -/
def Reader.close (reader : Reader) : Reader := { reader with closed := true }

/-- A broker, and the readers by the numbers of their subscriptions. -/
structure Traffic where
  broker : Broker := {}
  readers : List Reader := []
  deriving DecidableEq, Repr, Inhabited

namespace Traffic

/-- Replace the broker. -/
def setBroker (t : Traffic) (b : Broker) : Traffic := { t with broker := b }

/-- A reader whose subscription is open. -/
def open? (t : Traffic) (id : Nat) : Option Reader := (t.readers[id]?).filter fun reader => !reader.closed

/-- What a call does.  Only an open subscription can be used, and only what was received from it can
be committed there. -/
def step? (t : Traffic) : ClientCall → Option Traffic
  | .publish out now => some (t.setBroker (t.broker.publish out now).2)
  | .failNext count => some (t.setBroker (t.broker.failNext count))
  | .createTopic name layout => some (t.setBroker (t.broker.createTopic name layout))
  | .createIfAbsent requests => some (t.setBroker (t.broker.createIfAbsent requests).2)
  | .subscribe topic group =>
      some {
        broker := (t.broker.subscribe topic group).2
        readers := t.readers
          ++ [{ topic, group, start := (t.broker.committed? group topic).getD 0 }] }
  | .receive id => (t.open? id).map fun _ =>
      { broker := (t.broker.receive id).2
        readers := t.readers.modify id fun reader => reader.receive (t.broker.receive id).1 }
  | .commit id r => (t.open? id).bind fun reader =>
      if r ∈ reader.received then some (t.setBroker (t.broker.commit id r.topic r.offset).2) else none
  | .close id => (t.open? id).map fun _ =>
      { broker := t.broker.close id
        readers := t.readers.modify id Reader.close }

/-- Calls one after the other; none if one of them cannot be made. -/
def run (t : Traffic) : List ClientCall → Option Traffic
  | [] => some t
  | call :: rest => (t.step? call).bind fun t => t.run rest

variable {s t u : Traffic} {call : ClientCall} {calls : List ClientCall} {id : Nat} {reader : Reader}

/-- Only readers that are not closed can act. -/
theorem open?_iff :
    t.open? id = some reader ↔ t.readers[id]? = some reader ∧ reader.closed = false := by
  unfold open?
  rw [Option.filter_eq_some_iff, Bool.not_eq_true']

/-- **Whatever is called, the broker only grows.** -/
theorem grows_of_step (h : t.step? call = some u) : t.broker.Grows u.broker := by
  cases call with
  | publish out now =>
      cases h
      exact Broker.grows_publish t.broker out now
  | failNext count =>
      cases h
      exact (Broker.alike_failNext t.broker count).toStill.grows fun _ _ h => h
  | createTopic name layout =>
      cases h
      exact Broker.grows_createTopic t.broker name layout
  | createIfAbsent requests =>
      cases h
      exact Broker.grows_createIfAbsent t.broker requests
  | subscribe topic group =>
      cases h
      exact Broker.grows_subscribe t.broker topic group
  | receive id =>
      obtain ⟨_, _, rfl⟩ := Option.map_eq_some_iff.1 h
      exact Broker.grows_receive t.broker id
  | commit id r =>
      obtain ⟨reader, _, h⟩ := Option.bind_eq_some_iff.1 h
      obtain ⟨_, h⟩ := Option.ite_none_right_eq_some.1 h
      cases h
      exact Broker.grows_commit t.broker id r.topic r.offset
  | close id =>
      obtain ⟨_, _, rfl⟩ := Option.map_eq_some_iff.1 h
      exact Broker.grows_close t.broker id

/-- **What every call keeps is kept.** -/
theorem keeps_of_run {I : Traffic → Prop} (run : t.run calls = some u)
    (step : ∀ t t' call, I t → t.step? call = some t' → I t') (init : I t) : I u := by
  induction calls generalizing t with
  | nil =>
      cases run
      exact init
  | cons call rest ih =>
      obtain ⟨t', htaken, hrest⟩ := Option.bind_eq_some_iff.1 run
      exact ih hrest (step t t' call init htaken)

theorem grows_of_run (run : t.run calls = some u) : t.broker.Grows u.broker :=
  keeps_of_run (I := fun u => t.broker.Grows u.broker) run
    (fun _ _ _ h taken => h.trans (grows_of_step taken)) (.refl _)

end Traffic

/-! ## §4. What a reader has received. -/

/-- The place in the log where a reader starts. -/
def Reader.place (reader : Reader) : Nat := reader.start.toInt.toNat

/-- What was received is the log from the start, as far as the reader has come, and an open
subscription serves the rest. -/
structure Reader.Served (b : Broker) (id : Nat) (reader : Reader) : Prop where
  received : reader.received <+: (b.records reader.topic).drop reader.place
  serves : reader.closed = false →
    b.Serves reader.group reader.topic id (reader.place + reader.received.length)

namespace Reader

variable {b b' : Broker} {id : Nat} {reader : Reader}

/-- Logs may grow, as long as the subscription goes on serving. -/
theorem Served.of_grown (h : reader.Served b id)
    (hrecords : ∀ topic, b.records topic <+: b'.records topic)
    (hserves : ∀ {group topic n}, b.Serves group topic id n → b'.Serves group topic id n) :
    reader.Served b' id where
  received := h.received.trans ((hrecords reader.topic).drop reader.place)
  serves := fun hopen => hserves (h.serves hopen)

/-- **The next record is received**, if there is one. -/
theorem Served.receive (h : reader.Served b id) (hopen : reader.closed = false) :
    (reader.receive (b.receive id).1).Served (b.receive id).2 id := by
  have hserves := h.serves hopen
  cases hr : (b.receive id).1 with
  | none =>
      have hsame : (b.receive id).2 = b := by
        rcases Broker.receive_eq b id with heq | ⟨s, r, rest, _, _, heq⟩
        · rw [heq]
        · rw [heq] at hr
          cases hr
      have hreader : reader.receive none = reader := by
        unfold Reader.receive
        rw [Option.toList_none, List.append_nil]
      rw [hsame, hreader]
      exact h
  | some r =>
      obtain ⟨hget, hnext⟩ := hserves.receive_some hr
      refine ⟨?_, fun _ => ?_⟩
      · show reader.received ++ [r] <+: ((b.receive id).2.records reader.topic).drop reader.place
        rw [(Broker.still_receive b id).records]
        -- what follows in the log is the record that was received
        obtain ⟨rest, hrest⟩ := h.received
        rw [← List.getElem?_drop, ← hrest, List.getElem?_append_right (Nat.le_refl _),
          Nat.sub_self] at hget
        obtain ⟨rest', rfl⟩ : ∃ rest', rest = r :: rest' := by
          cases rest with
          | nil => cases hget
          | cons c rest' =>
              cases hget
              exact ⟨rest', rfl⟩
        exact ⟨rest', by rw [← hrest, List.append_assoc]; rfl⟩
      · show (b.receive id).2.Serves reader.group reader.topic id
          (reader.place + (reader.received ++ [r]).length)
        rw [List.length_append, ← Nat.add_assoc]
        exact hnext

/-- **What an open subscription gives next.** -/
theorem Served.receive_fst (h : reader.Served b id) (hopen : reader.closed = false) :
    (b.receive id).1 = ((b.records reader.topic).drop reader.place)[reader.received.length]? := by
  have hserves := h.serves hopen
  rw [List.getElem?_drop]
  cases hr : (b.receive id).1 with
  | some r => exact (hserves.receive_some hr).1.symm
  | none =>
      cases hget : (b.records reader.topic)[reader.place + reader.received.length]? with
      | none => rfl
      | some r =>
          rw [hserves.exists_receive hget] at hr
          cases hr

/-- A reader that gives up keeps what it has received. -/
theorem Served.close (h : reader.Served b id) :
    reader.close.Served (b.close id) id :=
  ⟨h.received, fun hopen => by cases hopen⟩

/-- **A new reader starts at the committed offset of its group.** -/
theorem served_subscribe (hlawful : b.Lawful) (hfits : b.Fits) (hwithin : b.CommitsWithin)
    (topic group : String) :
    Served (b.subscribe topic group).2 b.nextSubscription
      { topic, group, start := (b.committed? group topic).getD 0 } :=
  ⟨List.nil_prefix, fun _ =>
    Broker.serves_subscribe hlawful hfits topic group (hwithin.floor_le group topic)⟩

/-- Whatever was received lies in the log. -/
theorem Served.mem_records (h : reader.Served b id) {r : Record} (hr : r ∈ reader.received) :
    r ∈ b.records reader.topic := List.mem_of_mem_drop (h.received.subset hr)

end Reader

namespace Traffic

variable {s t u : Traffic} {call : ClientCall} {calls : List ClientCall} {id : Nat} {reader : Reader}

/-- The broker is lawful, and every reader has received what it should have. -/
structure Regular (t : Traffic) : Prop where
  lawful : t.broker.Lawful
  within : t.broker.CommitsWithin
  numbers : t.readers.length = t.broker.nextSubscription
  served : ∀ id (reader : Reader), t.readers[id]? = some reader → reader.Served t.broker id

/-- It all begins with no log, no commit and no reader. -/
theorem regular_empty (strict : Bool) : Regular { broker := { strict } } where
  lawful := by
    refine ⟨?_, ?_⟩
    · intro topic k r hr
      cases hr
    · intro s hs
      cases hs
  within := fun _ _ _ h => by cases h
  numbers := rfl
  served := fun _ _ h => by cases h

namespace Regular

/-- Readers are as they were. -/
theorem setBroker (h : t.Regular) {b : Broker} (lawful : b.Lawful) (within : b.CommitsWithin)
    (grows : t.broker.Grows b) (next : b.nextSubscription = t.broker.nextSubscription)
    (serves : ∀ {group topic id n}, t.broker.Serves group topic id n → b.Serves group topic id n) :
    (t.setBroker b).Regular :=
  ⟨lawful, within, h.numbers.trans next.symm, fun id reader hreader =>
    (h.served id reader hreader).of_grown grows.records serves⟩

theorem of_alike (h : t.Regular) {b : Broker} (halike : t.broker.Alike b)
    (grows : t.broker.Grows b) : (t.setBroker b).Regular :=
  h.setBroker (h.lawful.of_alike halike) (h.within.of_still halike.committed grows.records) grows
    halike.nextSubscription fun hserves => hserves.of_alike halike

theorem publish (h : t.Regular) (out : OutgoingRecord) (now : Int64) :
    (t.setBroker (t.broker.publish out now).2).Regular := by
  have hgrows := Broker.grows_publish t.broker out now
  cases hanswer : (t.broker.publish out now).1 with
  | error e => exact h.of_alike (Broker.alike_publish_of_error hanswer) hgrows
  | ok _ =>
      have halike := Broker.alike_createTopic t.broker out.topic {}
      have hbroker : (t.broker.publish out now).2
          = (t.broker.createTopic out.topic {}).append out now := by
        rw [Broker.publish_of_ok hanswer]
      refine h.setBroker (h.lawful.publish hanswer) (h.within.of_still ?_ hgrows.records) hgrows ?_
        fun hserves => hserves.publish hanswer
      · rw [hbroker]
        exact halike.committed
      · rw [hbroker]
        exact halike.nextSubscription

/-- One more reader. -/
theorem subscribe (h : t.Regular) (hfits : t.broker.Fits) {topic group : String}
    (taken : t.step? (.subscribe topic group) = some u) : u.Regular := by
  cases taken
  have hgrows := Broker.grows_subscribe t.broker topic group
  refine ⟨h.lawful.subscribe topic group, h.within.of_still
    (Broker.still_subscribe t.broker topic group).committed hgrows.records, ?_, ?_⟩
  · show (t.readers ++ [_]).length = (t.broker.createTopic topic {}).nextSubscription + 1
    rw [List.length_append, h.numbers,
      (Broker.alike_createTopic t.broker topic {}).nextSubscription]
    rfl
  · intro id reader hreader
    rcases getElem?_concat_cases hreader with ⟨rfl, rfl⟩ | ⟨_, hold⟩
    · rw [h.numbers]
      exact Reader.served_subscribe h.lawful hfits h.within topic group
    · exact (h.served id reader hold).of_grown hgrows.records fun hserves =>
        hserves.subscribe_other h.lawful.issued topic group

/-- The broker answers one reader, and does nothing else that another could see. -/
theorem modify (h : t.Regular) {b : Broker} {f : Reader → Reader} (here : t.readers[id]? = some reader)
    (lawful : b.Lawful) (grows : t.broker.Grows b) (committed : b.committed = t.broker.committed)
    (next : b.nextSubscription = t.broker.nextSubscription)
    (served : (f reader).Served b id)
    (serves : ∀ {group topic id' n}, id' ≠ id → t.broker.Serves group topic id' n →
      b.Serves group topic id' n) : Regular ⟨b, t.readers.modify id f⟩ := by
  refine ⟨lawful, h.within.of_still committed grows.records, ?_, ?_⟩
  · show (t.readers.modify id f).length = _
    rw [List.length_modify, h.numbers, next]
  · intro id' reader' hreader
    have hreader : (t.readers.modify id f)[id']? = some reader' := hreader
    by_cases hid : id = id'
    · subst hid
      rw [List.getElem?_modify_eq, here] at hreader
      cases hreader
      exact served
    · rw [List.getElem?_modify_ne _ _ hid] at hreader
      exact (h.served id' reader' hreader).of_grown grows.records (serves fun heq => hid heq.symm)

theorem receive (h : t.Regular) (taken : t.step? (.receive id) = some u) : u.Regular := by
  obtain ⟨reader, hreader, rfl⟩ := Option.map_eq_some_iff.1 taken
  obtain ⟨here, hopen⟩ := open?_iff.1 hreader
  refine h.modify here (h.lawful.receive id) (Broker.grows_receive t.broker id)
    (Broker.still_receive t.broker id).committed ?_ ((h.served id reader here).receive hopen)
    fun hne hserves => hserves.receive_other hne
  rcases Broker.receive_eq t.broker id with heq | ⟨s, r, rest, _, _, heq⟩
  · rw [heq]
  · rw [heq]

theorem close (h : t.Regular) (taken : t.step? (.close id) = some u) : u.Regular := by
  obtain ⟨reader, hreader, rfl⟩ := Option.map_eq_some_iff.1 taken
  obtain ⟨here, _⟩ := open?_iff.1 hreader
  exact h.modify here (h.lawful.close id) (Broker.grows_close t.broker id) rfl rfl
    (h.served id reader here).close fun hne hserves => hserves.close_other hne

/-- **A record that was received is committed.** -/
theorem commit (h : t.Regular) (hfits : t.broker.Fits) {r : Record}
    (taken : t.step? (.commit id r) = some u) : u.Regular := by
  obtain ⟨reader, hreader, taken⟩ := Option.bind_eq_some_iff.1 taken
  obtain ⟨hr, taken⟩ := Option.ite_none_right_eq_some.1 taken
  cases taken
  obtain ⟨here, hopen⟩ := open?_iff.1 hreader
  have hserved := h.served id reader here
  obtain ⟨k, hk⟩ := List.getElem?_of_mem (hserved.mem_records hr)
  have htopic := (h.lawful.numbered reader.topic k r hk).1
  have hoffset := h.lawful.numbered.toInt_offset hfits hk
  have hlt := (List.getElem?_eq_some_iff.1 hk).1
  have hgrows := Broker.grows_commit t.broker id r.topic r.offset
  rw [htopic, (hserved.serves hopen).commit] at hgrows ⊢
  exact h.setBroker (h.lawful.setCommitted _ _ _) (h.within.setCommitted hoffset hlt hfits) hgrows rfl
    fun hserves => hserves.setCommitted _ _ _

/-- **Whatever is called.** -/
theorem step (h : t.Regular) (hfits : t.broker.Fits) (taken : t.step? call = some u) :
    u.Regular := by
  cases call with
  | publish out now =>
      cases taken
      exact h.publish out now
  | failNext count =>
      have hgrows := grows_of_step taken
      cases taken
      exact h.of_alike (Broker.alike_failNext t.broker count) hgrows
  | createTopic name layout =>
      cases taken
      exact h.of_alike (Broker.alike_createTopic t.broker name layout)
        (Broker.grows_createTopic t.broker name layout)
  | createIfAbsent requests =>
      cases taken
      exact h.of_alike (Broker.alike_createIfAbsent t.broker requests)
        (Broker.grows_createIfAbsent t.broker requests)
  | subscribe topic group => exact h.subscribe hfits taken
  | receive id => exact h.receive taken
  | commit id r => exact h.commit hfits taken
  | close id => exact h.close taken

/-- **In any order.** -/
theorem run (h : t.Regular) (run : t.run calls = some u) (hfits : u.broker.Fits) : u.Regular := by
  induction calls generalizing t with
  | nil =>
      cases run
      exact h
  | cons call rest ih =>
      have hgrows := grows_of_run run
      obtain ⟨t', htaken, hrest⟩ := Option.bind_eq_some_iff.1 run
      exact ih (h.step (hfits.of_grown hgrows.records) htaken) hrest

/-- **Whoever goes on receiving has the whole log in the end.** -/
theorem drains (h : t.Regular) (here : t.readers[id]? = some reader) (hopen : reader.closed = false) :
    ∃ n u, t.run (List.replicate n (.receive id)) = some u ∧ ∃ reader' : Reader,
      u.readers[id]? = some reader'
        ∧ reader'.received = (t.broker.records reader.topic).drop reader.place := by
  -- by induction on what is still to be received
  generalize hm : ((t.broker.records reader.topic).drop reader.place).length
    - reader.received.length = m
  induction m generalizing t reader with
  | zero =>
      refine ⟨0, t, rfl, reader, here, ?_⟩
      have hserved := h.served id reader here
      exact hserved.received.eq_of_length_le (Nat.le_of_sub_eq_zero hm)
  | succ m ih =>
      have hserved := h.served id reader here
      have htaken : t.step? (.receive id) = some
          { broker := (t.broker.receive id).2
            readers := t.readers.modify id fun reader => reader.receive (t.broker.receive id).1 } := by
        show (t.open? id).map _ = _
        rw [open?_iff.2 ⟨here, hopen⟩]
        rfl
      have hhere : (t.readers.modify id fun reader => reader.receive (t.broker.receive id).1)[id]?
          = some (reader.receive (t.broker.receive id).1) := by
        rw [List.getElem?_modify_eq, here]
        rfl
      have hrecords := (Broker.still_receive t.broker id).records reader.topic
      obtain ⟨n, u, hrun, reader', hreader', hreceived⟩ := ih (h.receive htaken) hhere hopen (by
        -- there is one more, since not everything has been received
        rw [hserved.receive_fst hopen, List.getElem?_eq_getElem (by omega)]
        show (((t.broker.receive id).2.records reader.topic).drop reader.place).length
          - (reader.received ++ [_]).length = m
        rw [hrecords, List.length_append]
        show _ - (_ + 1) = m
        omega)
      refine ⟨n + 1, u, ?_, reader', hreader', ?_⟩
      · rw [List.replicate_succ]
        exact Option.bind_eq_some_iff.2 ⟨_, htaken, hrun⟩
      · rw [hreceived]
        exact congrArg (List.drop _) hrecords

end Regular

/-- A reader keeps its topic, its group and its start, and what it has received. -/
structure Keeps (reader reader' : Reader) : Prop where
  topic : reader'.topic = reader.topic
  group : reader'.group = reader.group
  start : reader'.start = reader.start
  received : reader.received <+: reader'.received

theorem Keeps.refl (reader : Reader) : Keeps reader reader := ⟨rfl, rfl, rfl, List.prefix_rfl⟩

theorem Keeps.trans {reader' reader'' : Reader} (h : Keeps reader reader')
    (h' : Keeps reader' reader'') : Keeps reader reader'' where
  topic := h'.topic.trans h.topic
  group := h'.group.trans h.group
  start := h'.start.trans h.start
  received := h.received.trans h'.received

theorem Keeps.of_modify {f : Reader → Reader} (hf : ∀ reader, Keeps reader (f reader))
    (here : t.readers[id]? = some reader) (id' : Nat) :
    ∃ reader', (t.readers.modify id' f)[id]? = some reader' ∧ Keeps reader reader' := by
  by_cases hid : id' = id
  · subst hid
    exact ⟨f reader, by rw [List.getElem?_modify_eq, here]; rfl, hf reader⟩
  · exact ⟨reader, by rw [List.getElem?_modify_ne _ _ hid, here], .refl reader⟩

/-- A call leaves every reader its topic, group and start, and what it has received. -/
theorem Keeps.of_step (here : t.readers[id]? = some reader) (taken : t.step? call = some u) :
    ∃ reader', u.readers[id]? = some reader' ∧ Keeps reader reader' := by
  have hsame : ∀ b, ∃ reader', (t.setBroker b).readers[id]? = some reader' ∧ Keeps reader reader' :=
    fun b => ⟨reader, here, .refl reader⟩
  cases call with
  | publish out now =>
      cases taken
      exact hsame _
  | failNext count =>
      cases taken
      exact hsame _
  | createTopic name layout =>
      cases taken
      exact hsame _
  | createIfAbsent requests =>
      cases taken
      exact hsame _
  | subscribe topic group =>
      cases taken
      refine ⟨reader, ?_, .refl reader⟩
      show (t.readers ++ [_])[id]? = _
      rw [List.getElem?_append_left (List.getElem?_eq_some_iff.1 here).1, here]
  | receive id' =>
      obtain ⟨_, _, rfl⟩ := Option.map_eq_some_iff.1 taken
      exact Keeps.of_modify (f := fun reader => reader.receive _)
        (fun reader => ⟨rfl, rfl, rfl, List.prefix_append reader.received _⟩) here id'
  | commit id' r =>
      obtain ⟨_, _, taken⟩ := Option.bind_eq_some_iff.1 taken
      obtain ⟨_, taken⟩ := Option.ite_none_right_eq_some.1 taken
      cases taken
      exact hsame _
  | close id' =>
      obtain ⟨_, _, rfl⟩ := Option.map_eq_some_iff.1 taken
      exact Keeps.of_modify (f := Reader.close) (fun _ => ⟨rfl, rfl, rfl, List.prefix_rfl⟩) here id'

theorem Keeps.of_run (here : t.readers[id]? = some reader) (run : t.run calls = some u) :
    ∃ reader', u.readers[id]? = some reader' ∧ Keeps reader reader' := by
  refine keeps_of_run (I := fun u => ∃ reader', u.readers[id]? = some reader' ∧ Keeps reader reader')
    run ?_ ⟨reader, here, .refl reader⟩
  rintro t u call ⟨reader', here', hkeeps⟩ taken
  obtain ⟨reader'', here'', hkeeps'⟩ := Keeps.of_step here' taken
  exact ⟨reader'', here'', hkeeps.trans hkeeps'⟩

/-! ## §5. The law. -/

variable {later : List ClientCall}

/-- **Every subscription receives its log from the committed offset on, in order and without a gap.**

The calls come from any number of clients, one after the other: first `calls`, then `later`. -/
theorem subscriptions_receive_log_in_order {strict : Bool}
    (reached : run { broker := { strict } } calls = some s) (onward : s.run later = some t)
    (fits : t.broker.Fits) :
    -- a log has the offsets 0, 1, 2, …, and grows at its end; a publish that fails changes none
    (∀ topic (k : Nat) (r : Record), (t.broker.records topic)[k]? = some r →
      r.topic = topic ∧ r.offset.toInt = k)
    ∧ (∀ topic, s.broker.records topic <+: t.broker.records topic)
    ∧ (∀ topic l, s.broker.layout? topic = some l → t.broker.layout? topic = some l)
    ∧ (∀ out now e, (t.broker.publish out now).1 = .error e →
        (t.broker.publish out now).2.topics = t.broker.topics)
    -- committed offsets never go back, and never pass the end of the log
    ∧ (∀ group topic c, s.broker.committed? group topic = some c →
        ∃ c', t.broker.committed? group topic = some c' ∧ c.toInt ≤ c'.toInt)
    ∧ (∀ group topic c, t.broker.committed? group topic = some c →
        0 ≤ c.toInt ∧ c.toInt ≤ (t.broker.records topic).length)
    -- a subscription starts where its group is
    ∧ (∀ topic group rest, later = .subscribe topic group :: rest →
        ∃ reader : Reader, t.readers[s.broker.nextSubscription]? = some reader ∧ reader.topic = topic
          ∧ reader.group = group
          ∧ reader.start = (s.broker.committed? group topic).getD 0)
    -- and receives what the log has from there on, whenever it was published: so far a part of it
    -- from the front, next the one after that, and all of it in the end
    ∧ ∀ id (reader : Reader), t.readers[id]? = some reader →
        reader.received
            <+: (t.broker.records reader.topic).filter (fun r => decide (reader.start ≤ r.offset))
        ∧ (reader.closed = false →
            (t.broker.receive id).1 = ((t.broker.records reader.topic).filter fun r =>
              decide (reader.start ≤ r.offset))[reader.received.length]?
            ∧ ∃ n u, t.run (List.replicate n (.receive id)) = some u ∧ ∃ reader' : Reader,
              u.readers[id]? = some reader' ∧ reader'.received
                = (t.broker.records reader.topic).filter fun r => decide (reader.start ≤ r.offset)) := by
  have hgrows := grows_of_run onward
  have hbefore := (regular_empty strict).run reached (fits.of_grown hgrows.records)
  have hregular := hbefore.run onward fits
  refine ⟨fun topic k r hr => ⟨(hregular.lawful.numbered topic k r hr).1,
      hregular.lawful.numbered.toInt_offset fits hr⟩, hgrows.records, hgrows.layout,
    fun out now e => Broker.topics_publish_of_error, ?_, hregular.within, ?_, ?_⟩
  · intro group topic c hc
    obtain ⟨c', hc', hle⟩ := hgrows.committed group topic c hc
    exact ⟨c', hc', Int64.le_iff_toInt_le.1 hle⟩
  · rintro topic group rest rfl
    obtain ⟨s', htaken, hrest⟩ := Option.bind_eq_some_iff.1 onward
    have hnew : s'.readers[s.broker.nextSubscription]?
        = some { topic, group, start := (s.broker.committed? group topic).getD 0 } := by
      cases htaken
      show (s.readers ++ [_])[s.broker.nextSubscription]? = _
      rw [← hbefore.numbers, List.getElem?_concat_length]
    obtain ⟨reader, here, hkeeps⟩ := Keeps.of_run hnew hrest
    exact ⟨reader, here, hkeeps.topic, hkeeps.group, hkeeps.start⟩
  · intro id reader here
    have hserved := hregular.served id reader here
    rw [hregular.lawful.numbered.filter_le fits]
    exact ⟨hserved.received, fun hopen =>
      ⟨hserved.receive_fst hopen, hregular.drains here hopen⟩⟩

end Traffic

namespace Orders

/-- An order with a value. -/
def order (value : UInt8) : OutgoingRecord := { topic := "orders", value := some [value] }

/-- Two orders are published, and the first one is received and committed. -/
def firstShift : List ClientCall :=
  [.publish (order 1) 10, .publish (order 2) 20, .subscribe "orders" "g", .receive 0,
    .commit 0 (Broker.stored (order 1) 0 10), .close 0, .publish (order 3) 30]

/-- Another subscription of the group: it replays two orders, and follows with a third. -/
def secondShift : List ClientCall :=
  [.subscribe "orders" "g", .receive 1, .failNext 1, .publish (order 4) 40, .publish (order 5) 50,
    .receive 1, .receive 1]

/-- The traffic between the shifts. -/
def handedOver : Traffic := (({} : Traffic).run firstShift).getD {}

/-- The traffic after both. -/
def wentHome : Traffic := (handedOver.run secondShift).getD {}

end Orders

open Orders in
/-- The second subscription starts at the second order, and has missed nothing. -/
theorem Traffic.subscriptions_receive_log_in_order_of_two_shifts :
    handedOver.broker.committed? "g" "orders" = some 1
      ∧ ∃ reader : Reader, wentHome.readers[1]? = some reader ∧ reader.start = 1
        ∧ reader.received.length = 3
        ∧ reader.received <+: (wentHome.broker.records reader.topic).filter fun r =>
          decide (reader.start ≤ r.offset) := by
  have hreached : run { broker := { strict := false } } firstShift = some handedOver := by
    decide +kernel
  have honward : handedOver.run secondShift = some wentHome := by decide +kernel
  have hfits : wentHome.broker.Fits := Broker.fits_of_topics (by decide +kernel)
  have hlaw := subscriptions_receive_log_in_order hreached honward hfits
  have hcommitted : handedOver.broker.committed? "g" "orders" = some 1 := by decide +kernel
  have hnumber : handedOver.broker.nextSubscription = 1 := by decide +kernel
  obtain ⟨_, _, _, _, _, _, hopened, hreceived⟩ := hlaw
  obtain ⟨reader, here, _, _, hstart⟩ := hopened "orders" "g" secondShift.tail rfl
  rw [hnumber] at here
  rw [hcommitted] at hstart
  refine ⟨hcommitted, reader, here, hstart, ?_, (hreceived 1 reader here).1⟩
  have hlength : (wentHome.readers[1]?).map (fun reader => reader.received.length) = some 3 := by
    decide +kernel
  rw [here] at hlength
  exact Option.some.inj hlength

end Redelivery
