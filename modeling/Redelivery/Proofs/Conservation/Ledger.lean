/-
  Redelivery.Proofs.Conservation.Ledger
  ─────────────────────────────────────
  **Whose copy lies where, written down beside a run.**

  A record is known by the place where it was first put.  A record that a step
  of a consumer adds to a log is a copy of the record that the consumer has in
  hand; any other record that is added is one of its own.  How a record ended
  is read off the journal.

      turn of the system  =  entry into the book, or nothing at all
-/
import Redelivery.Proofs.Conservation.Service

namespace Redelivery

/-! ## §1. The ledger. -/

/-- Whose copy lies at each offset of a topic. -/
structure Ledger where
  copies : String → List Place

namespace Ledger

/-- Every record that lies on a broker is one of its own. -/
def opening (b : Broker) : Ledger :=
  ⟨fun topic => (List.range (b.records topic).length).map (Place.mk topic)⟩

/-- The record whose copy `r` is. -/
def origin? (L : Ledger) (r : Record) : Option Place := (L.copies r.topic)[r.offset.toInt.toNat]?

/-- The record whose copies an action makes: the one that the consumer has in hand. -/
def source? (L : Ledger) (s : System) : Action → Option Place
  | .proceed i _ => ((s.consumers[i]?).bind fun c => c.phase.inHand?).bind L.origin?
  | _ => none

/-- What was added to logs: copies of one record, or records of their own. -/
def grown (L : Ledger) (before after : Broker) (source : Option Place) : Ledger :=
  ⟨fun topic => L.copies topic
    ++ (List.range' (before.records topic).length
        ((after.records topic).length - (before.records topic).length)).map
      fun k => source.getD ⟨topic, k⟩⟩

/-- The ledger after an action that takes the system from `s` to `s'`. -/
def after (L : Ledger) (s : System) (a : Action) (s' : System) : Ledger :=
  L.grown s.broker s'.broker (L.source? s a)

/-- How the record `p` ended, if that is what the entry says. -/
def ending? (L : Ledger) (p : Place) (entry : JournalEntry) : Option Outcome :=
  match entry.event with
  | .concluded r (.ok outcome) =>
      if outcome.isCopy = false ∧ L.origin? r = some p then some outcome else none
  | _ => none

/-- How the record `p` ended, each time that it did. -/
def endings (L : Ledger) (journal : List JournalEntry) (p : Place) : List Outcome :=
  journal.filterMap (L.ending? p)

end Ledger

/-- Whether the consumer of a topic is done with the next record and has not committed it yet. -/
def System.settled (s : System) (topic : String) : Bool :=
  s.consumers.any fun c => c.topic == topic && c.phase.isSettled

/-- The book of an endpoint: its ledger, how far each topic is dealt with, and how records ended. -/
def Ledger.book (L : Ledger) (s : System) (group : String) : Book where
  copies := L.copies
  reached := fun topic => s.broker.floor group topic + (s.settled topic).toNat
  ends := L.endings s.journal

/-- The ledger has a copy for each record. -/
def Ledger.Covers (L : Ledger) (b : Broker) : Prop :=
  ∀ topic, (L.copies topic).length = (b.records topic).length

namespace Ledger

variable {L : Ledger} {b b' : Broker} {s s' : System} {source : Option Place}

/-! ## §2. Ledgers that grow. -/

theorem covers_opening (b : Broker) : (opening b).Covers b := by
  intro topic
  show ((List.range (b.records topic).length).map _).length = _
  rw [List.length_map, List.length_range]

/-- A ledger that covers the logs covers them after they have grown. -/
theorem Covers.grown (h : L.Covers b) (hrecords : ∀ topic, b.records topic <+: b'.records topic) :
    (L.grown b b' source).Covers b' := by
  intro topic
  show (L.copies topic ++ (List.range' _ _).map _).length = _
  rw [List.length_append, List.length_map, List.length_range', h topic]
  have hlength := (hrecords topic).length_le
  omega

/-- No log grew. -/
theorem grown_of_records (h : ∀ topic, b'.records topic = b.records topic) :
    L.grown b b' source = L := by
  cases L with
  | mk copies =>
      unfold grown
      congr 1
      funext topic
      rw [h topic, Nat.sub_self]
      exact List.append_nil _

/-- One log grew by one record. -/
theorem grown_of_publish {out : OutgoingRecord} {now : Int64} (h : L.Covers b)
    (hok : (b.publish out now).1 = .ok ()) (topic : String) :
    (L.grown b (b.publish out now).2 source).copies topic = L.copies topic
      ++ if out.topic = topic then [source.getD ⟨topic, (L.copies topic).length⟩] else [] := by
  show L.copies topic ++ (List.range' _ _).map _ = _
  rw [Broker.records_publish hok, h topic]
  by_cases htopic : out.topic = topic
  · rw [if_pos htopic, if_pos htopic, List.length_append, List.length_singleton,
      Nat.add_sub_cancel_left]
    rfl
  · rw [if_neg htopic, if_neg htopic, List.append_nil, Nat.sub_self]
    rfl

/-- A record that was there keeps its origin. -/
theorem origin?_grown (hcovers : L.Covers b) {r : Record} (hr : b.Holds r) :
    (L.grown b b' source).origin? r = L.origin? r := by
  have hlt : r.offset.toInt.toNat < (L.copies r.topic).length := by
    rw [hcovers]
    exact (List.getElem?_eq_some_iff.1 hr).1
  show (L.copies r.topic ++ _)[r.offset.toInt.toNat]? = _
  rw [List.getElem?_append_left hlt]
  rfl

/-- Growing logs do not change how records ended. -/
theorem endings_grown (hcovers : L.Covers b) {journal : List JournalEntry}
    (hjournal : b.HoldsConcluded journal)
    (p : Place) : (L.grown b b' source).endings journal p = L.endings journal p := by
  induction journal with
  | nil => rfl
  | cons entry rest ih =>
      have hentry : (L.grown b b' source).ending? p entry = L.ending? p entry := by
        unfold ending?
        split
        · rename_i r outcome hevent
          rw [origin?_grown hcovers (hjournal entry List.mem_cons_self r _ hevent)]
        · rfl
      have hrest := ih fun e he => hjournal e (List.mem_cons_of_mem entry he)
      unfold endings at hrest ⊢
      rw [List.filterMap_cons, List.filterMap_cons, hentry, hrest]

theorem endings_append (journal entries : List JournalEntry) (p : Place) :
    L.endings (journal ++ entries) p = L.endings journal p ++ L.endings entries p := by
  unfold endings
  rw [List.filterMap_append]

/-- Where no record is concluded, none ends. -/
theorem endings_of_plain {entries : List JournalEntry} (h : System.Plain entries) (p : Place) :
    L.endings entries p = [] := by
  unfold endings
  rw [List.filterMap_eq_nil_iff]
  intro entry hentry
  unfold ending?
  split
  · rename_i r outcome hevent
    exact absurd hevent (h entry hentry r _)
  · rfl

end Ledger

end Redelivery
