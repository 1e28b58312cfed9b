/-
  Redelivery.Proofs.Bus.Upkeep
  ────────────────────────────
  **What operations on a broker leave as it is.**

  Logs only grow.  Most operations move no floor and leave every subscription
  serving what it served (`Upheld`).  What a consumer does with its own
  subscription may change that subscription and move the floor of its own
  topic, and nothing else (`Onward`).
-/
import Redelivery.Proofs.Bus.Subscriptions

namespace Redelivery

namespace Broker

/-- Logs grow, floors stay, and subscriptions go on serving. -/
structure Upheld (group : String) (b b' : Broker) : Prop where
  lawful : b.Lawful → b'.Lawful
  records : ∀ topic, b.records topic <+: b'.records topic
  floor : ∀ topic, b'.floor group topic = b.floor group topic
  serves : ∀ {topic id n}, Serves b group topic id n → Serves b' group topic id n
  issued : b.nextSubscription ≤ b'.nextSubscription

/-- Nothing changes but one subscription and the floor of its topic. -/
structure Onward (group topic : String) (id : Nat) (b b' : Broker) : Prop where
  lawful : b.Lawful → b'.Lawful
  records : ∀ t, b.records t <+: b'.records t
  floor : ∀ t, t ≠ topic → b'.floor group t = b.floor group t
  serves : ∀ {t id' n}, id' ≠ id → Serves b group t id' n → Serves b' group t id' n
  issued : b.nextSubscription ≤ b'.nextSubscription

variable {b b' : Broker} {group topic : String} {id n : Nat}

theorem grown_of_eq {l l' : List Record} (h : l' = l) : l <+: l' := by
  subst h
  exact List.prefix_refl _

/-! ## §1. Operations that uphold everything. -/

/-- What is upheld for all subscriptions is upheld for all but one. -/
theorem Upheld.onward (h : Upheld group b b') (topic : String) (id : Nat) :
    Onward group topic id b b' where
  lawful := h.lawful
  records := h.records
  floor := fun t _ => h.floor t
  serves := fun _ => h.serves
  issued := h.issued

/-- A floor that lies within its log goes on lying there. -/
theorem Upheld.within (h : Upheld group b b')
    (hwithin : b.floor group topic ≤ (b.records topic).length) :
    b'.floor group topic ≤ (b'.records topic).length := by
  rw [h.floor]
  exact Nat.le_trans hwithin (h.records topic).length_le

/-- A change of topics alone upholds everything. -/
theorem Alike.upheld (h : Alike b b') (group : String) : Upheld group b b' where
  lawful := fun hlawful => hlawful.of_alike h
  records := fun topic => grown_of_eq (h.records topic)
  floor := h.floor group
  serves := fun hserves => hserves.of_alike h
  issued := Nat.le_of_eq h.nextSubscription.symm

/-- A publish that succeeds upholds everything: an open inbox gets the record too. -/
theorem upheld_publish {out : OutgoingRecord} {now : Int64} (group : String)
    (hok : (b.publish out now).1 = .ok ()) : Upheld group b (b.publish out now).2 where
  lawful := fun hlawful => hlawful.publish hok
  records := by
    intro topic
    rw [records_publish hok]
    exact List.prefix_append _ _
  floor := by
    intro topic
    rw [publish_of_ok hok]
    exact floor_of_committed (alike_createTopic b out.topic {}).committed group topic
  serves := fun hserves => hserves.publish hok
  issued := by
    rw [publish_of_ok hok]
    exact Nat.le_of_eq (alike_createTopic b out.topic {}).nextSubscription.symm

/-- A new subscription has a new number, so it upholds those that are open. -/
theorem upheld_subscribe (hissued : b.Issued) (topic group : String) :
    Upheld group b (b.subscribe topic group).2 where
  lawful := fun hlawful => hlawful.subscribe topic group
  records := fun t => grown_of_eq ((still_subscribe b topic group).records t)
  floor := (still_subscribe b topic group).floor group
  serves := fun hserves => hserves.subscribe_other hissued topic group
  issued := by
    show b.nextSubscription ≤ (b.createTopic topic {}).nextSubscription + 1
    rw [(alike_createTopic b topic {}).nextSubscription]
    omega

/-! ## §2. What a consumer does with its subscription. -/

/-- To receive changes one subscription only. -/
theorem onward_receive (b : Broker) (group topic : String) (id : Nat) :
    Onward group topic id b (b.receive id).2 where
  lawful := fun hlawful => hlawful.receive id
  records := fun t => grown_of_eq ((still_receive b id).records t)
  floor := fun t _ => (still_receive b id).floor group t
  serves := fun hne hserves => hserves.receive_other hne
  issued := by
    apply Nat.le_of_eq
    rcases receive_eq b id with h | ⟨s, r, rest, _, _, h⟩
    · rw [h]
    · rw [h]

/-- To close a subscription changes no other. -/
theorem onward_close (b : Broker) (group topic : String) (id : Nat) :
    Onward group topic id b (b.close id) where
  lawful := fun hlawful => hlawful.close id
  records := fun _ => List.prefix_refl _
  floor := fun t _ => (still_close b id).floor group t
  serves := fun hne hserves => hserves.close_other hne
  issued := Nat.le_refl _

/-- A commit moves one floor only. -/
theorem onward_setCommitted (b : Broker) (group topic : String) (id : Nat) (offset : Int64) :
    Onward group topic id b (b.setCommitted group topic offset) where
  lawful := fun hlawful => hlawful.setCommitted group topic offset
  records := fun _ => List.prefix_refl _
  floor := by
    intro t hne
    unfold floor
    rw [committed?_setCommitted, if_neg hne]
  serves := fun _ hserves => hserves.setCommitted group topic offset
  issued := Nat.le_refl _

/-- **A subscription that serves its topic can commit there.** -/
theorem Serves.commit (h : Serves b group topic id n) (offset : Int64) :
    b.commit id topic offset = (.ok (), b.setCommitted group topic
      (max ((b.committed? group topic).getD 0) (offset + 1))) := by
  unfold Broker.commit
  rw [h.subscription]
  simp

/-! ## §3. Where records lie. -/

/-- The record lies at its offset on its topic. -/
def Holds (b : Broker) (r : Record) : Prop :=
  (b.records r.topic)[r.offset.toInt.toNat]? = some r

/-- A record keeps its place while its log grows. -/
theorem getElem?_of_grown {l l' : List Record} (h : l <+: l') {k : Nat} {r : Record}
    (hr : l[k]? = some r) : l'[k]? = some r := by
  obtain ⟨more, rfl⟩ := h
  rw [List.getElem?_append_left (List.getElem?_eq_some_iff.1 hr).1]
  exact hr

/-- A record that a broker holds is still there when the logs have grown. -/
theorem Holds.of_grown {r : Record} (h : b.Holds r)
    (hrecords : ∀ topic, b.records topic <+: b'.records topic) : b'.Holds r :=
  getElem?_of_grown (hrecords r.topic) h

/-- If the longer logs fit, so did the shorter ones. -/
theorem Fits.of_grown (h : b'.Fits) (hrecords : ∀ topic, b.records topic <+: b'.records topic) :
    b.Fits :=
  fun topic => Nat.lt_of_le_of_lt (hrecords topic).length_le (h topic)

/-- The offset of a record in a log is its place, and the log holds it there. -/
theorem Lawful.holds (h : b.Lawful) (hfits : b.Fits) {k : Nat} {r : Record}
    (hr : (b.records topic)[k]? = some r) : r.offset.toInt.toNat = k ∧ b.Holds r := by
  have hoffset : r.offset.toInt.toNat = k := by
    rw [h.numbered.toInt_offset hfits hr]
    rfl
  refine ⟨hoffset, ?_⟩
  unfold Holds
  rw [(h.numbered topic k r hr).1, hoffset]
  exact hr

end Broker

end Redelivery
