/-
  Redelivery.Bus.Broker
  ─────────────────────
  **A message broker in memory.**

  Each topic is an append-only log of records with offsets 0, 1, 2, ….
  Publishing appends one record and puts a copy into the inbox of every open
  subscription of the topic.  A consumer group commits the next offset it
  wants; a new subscription of the group receives the log from there on,
  then whatever is published later.

  Publishes can be made to fail, and a strict broker refuses topics that
  nobody created.  Every operation gives its answer and the broker after it.
-/
import Redelivery.Record
import Redelivery.Error

namespace Redelivery

/-- A topic with everything ever published to it, oldest first. -/
structure TopicLog where
  name : String
  layout : Layout := {}
  records : List Record := []
  deriving DecidableEq, Repr, Inhabited

/-- An open subscription with the records that wait to be received. -/
structure Subscription where
  id : Nat
  topic : String
  group : String
  inbox : List Record := []
  deriving DecidableEq, Repr, Inhabited

/-- The next offset that a group wants of a topic. -/
structure CommittedOffset where
  group : String
  topic : String
  offset : Int64
  deriving DecidableEq, Repr, Inhabited

/-- A message broker. -/
structure Broker where
  topics : List TopicLog := []
  committed : List CommittedOffset := []
  subscriptions : List Subscription := []
  nextSubscription : Nat := 0
  /-- How many of the next publishes fail. -/
  failing : Nat := 0
  /-- Whether publishing to an unknown topic is refused. -/
  strict : Bool := false
  deriving DecidableEq, Repr, Inhabited

namespace Broker

/-! ## §1. Topics. -/

/-- The log of a topic. -/
def log? (b : Broker) (name : String) : Option TopicLog := b.topics.find? fun t => t.name == name

/-- Whether the topic exists. -/
def hasTopic (b : Broker) (name : String) : Bool := b.topics.any fun t => t.name == name

/-- The layout of a topic. -/
def layout? (b : Broker) (name : String) : Option Layout := (b.log? name).map TopicLog.layout

/-- Everything ever published to a topic. -/
def records (b : Broker) (name : String) : List Record :=
  match b.log? name with
  | some t => t.records
  | none => []

/-- The names of the topics, in order. -/
def topicNames (b : Broker) : List String :=
  (b.topics.map TopicLog.name).mergeSort fun s t => decide (s ≤ t)

/-- Create a topic, unless it exists. -/
def createTopic (b : Broker) (name : String) (layout : Layout) : Broker :=
  if b.hasTopic name then b else { b with topics := b.topics ++ [{ name, layout }] }

/-- Create each missing topic in turn, up to the first that asks for no partition. -/
def createIfAbsent (b : Broker) : List TopicRequest → Except BusError Unit × Broker
  | [] => (.ok (), b)
  | r :: rest =>
      if r.layout.partitions < 1 then
        (.error (.admin ("Topic '" ++ r.name ++ "' needs at least one partition")), b)
      -- Topics created before the fault stay.
      else (b.createTopic r.name r.layout).createIfAbsent rest

/-! ## §2. Publishing. -/

/-- Make the next publishes fail. -/
def failNext (b : Broker) (count : Nat) : Broker := { b with failing := count }

/-- The record that a publish at time `now` puts at an offset. -/
def stored (r : OutgoingRecord) (offset : Nat) (now : Int64) : Record where
  topic := r.topic
  partition := r.partition.getD 0
  offset := Int64.ofNat offset
  timestamp := now
  key := r.key
  value := r.value
  headers := r.headers

/-- Append a record to the log of its topic, which exists, and to the inboxes of the topic. -/
def append (b : Broker) (r : OutgoingRecord) (now : Int64) : Broker :=
  -- Offsets are positions in the log, so the length is the next free one.
  let record := stored r (b.records r.topic).length now
  { b with
    topics := b.topics.map fun t =>
      if t.name == r.topic then { t with records := t.records ++ [record] } else t
    subscriptions := b.subscriptions.map fun s =>
      if s.topic == r.topic then { s with inbox := s.inbox ++ [record] } else s }

/-- Publish a record at time `now`. -/
def publish (b : Broker) (r : OutgoingRecord) (now : Int64) : Except BusError Unit × Broker :=
  -- An injected failure comes first: it is used up even by a topic that would be refused.
  if 0 < b.failing then
    (.error (.publish ("Simulated publish failure to '" ++ r.topic ++ "'")),
      { b with failing := b.failing - 1 })
  else if b.strict ∧ ¬b.hasTopic r.topic then
    (.error (.publish ("Unknown topic '" ++ r.topic ++ "'")), b)
  else (.ok (), (b.createTopic r.topic {}).append r now)

/-! ## §3. Consuming. -/

/-- The next offset that a group wants of a topic, if it ever committed one. -/
def committed? (b : Broker) (group topic : String) : Option Int64 :=
  (b.committed.find? fun c => c.group == group && c.topic == topic).map CommittedOffset.offset

/-- Open a subscription; its inbox starts with the log from the committed offset on. -/
def subscribe (b : Broker) (topic group : String) : Nat × Broker :=
  -- The position is the group's, not the subscription's: what an earlier one left is replayed.
  let start := (b.committed? group topic).getD 0
  let b := b.createTopic topic {}
  let inbox := (b.records topic).filter fun r => decide (start ≤ r.offset)
  let id := b.nextSubscription
  (id, { b with
    subscriptions := b.subscriptions ++ [{ id, topic, group, inbox }]
    nextSubscription := id + 1 })

/-- An open subscription. -/
def subscription? (b : Broker) (id : Nat) : Option Subscription :=
  b.subscriptions.find? fun s => s.id == id

/-- Take the first waiting record of a subscription. -/
def receive (b : Broker) (id : Nat) : Option Record × Broker :=
  match (b.subscription? id).map Subscription.inbox with
  | some (r :: rest) =>
      (some r, { b with
        subscriptions := b.subscriptions.map fun s =>
          if s.id == id then { s with inbox := rest } else s })
  | _ => (none, b)

/-- Set the offset that a group wants of a topic. -/
def setCommitted (b : Broker) (group topic : String) (offset : Int64) : Broker :=
  { b with
    committed := b.committed.filter (fun c => !(c.group == group && c.topic == topic))
      ++ [⟨group, topic, offset⟩] }

/-- Commit the offset after that of a record; committed offsets never go back. -/
def commit (b : Broker) (id : Nat) (topic : String) (offset : Int64) :
    Except BusError Unit × Broker :=
  match b.subscription? id with
  | none => (.error (.commit "the subscription is closed"), b)
  | some s =>
      if s.topic ≠ topic then
        (.error (.commit ("Record from '" ++ topic ++ "' committed on subscription to '" ++ s.topic
          ++ "'")), b)
      else
        -- A late commit of an early record must not bring later records back.
        let reached := (b.committed? s.group s.topic).getD 0
        (.ok (), b.setCommitted s.group s.topic (max reached (offset + 1)))

/-- Close a subscription. -/
def close (b : Broker) (id : Nat) : Broker :=
  { b with subscriptions := b.subscriptions.filter fun s => s.id != id }

end Broker

end Redelivery
