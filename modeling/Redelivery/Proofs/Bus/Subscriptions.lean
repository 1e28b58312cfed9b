/-
  Redelivery.Proofs.Bus.Subscriptions
  ───────────────────────────────────
  **What an open subscription has still to give.**

  A subscription serves its topic from an offset on: its inbox is the log from
  there (`Serves`).  A publish adds to both, receiving moves the offset by one,
  and whatever is done to other subscriptions leaves it alone.

      inbox = log.drop n      receive:  n  ↦  n + 1
-/
import Redelivery.Proofs.Bus.Offsets

namespace Redelivery

namespace Broker

variable {b b' : Broker} {group topic : String} {id n : Nat}

/-! ## §1. What leaves logs and offsets alone. -/

/-- The logs and the committed offsets are the same. -/
structure Still (b b' : Broker) : Prop where
  records : ∀ topic, b'.records topic = b.records topic
  committed : b'.committed = b.committed

/-- The subscriptions are the same as well. -/
structure Alike (b b' : Broker) : Prop extends Still b b' where
  subscriptions : b'.subscriptions = b.subscriptions
  nextSubscription : b'.nextSubscription = b.nextSubscription

/-- No floor moves while the commits stay as they are. -/
theorem Still.floor (h : Still b b') (group topic : String) :
    b'.floor group topic = b.floor group topic := floor_of_committed h.committed group topic

theorem Alike.refl (b : Broker) : Alike b b := ⟨⟨fun _ => rfl, rfl⟩, rfl, rfl⟩

theorem Alike.trans {b'' : Broker} (h : Alike b b') (h' : Alike b' b'') : Alike b b'' :=
  ⟨⟨fun topic => (h'.records topic).trans (h.records topic), h'.committed.trans h.committed⟩,
    h'.subscriptions.trans h.subscriptions, h'.nextSubscription.trans h.nextSubscription⟩

theorem alike_failNext (b : Broker) (count : Nat) : Alike b (b.failNext count) :=
  ⟨⟨fun _ => rfl, rfl⟩, rfl, rfl⟩

/-- A topic that is created has an empty log, so nothing else changes. -/
theorem alike_createTopic (b : Broker) (name : String) (layout : Layout) :
    Alike b (b.createTopic name layout) := by
  refine ⟨⟨records_createTopic name layout, ?_⟩, ?_, ?_⟩
  all_goals
    unfold createTopic
    split <;> rfl

/-- However far a list of requests gets, only empty logs are added. -/
theorem alike_createIfAbsent (b : Broker) (requests : List TopicRequest) :
    Alike b (b.createIfAbsent requests).2 := by
  induction requests generalizing b with
  | nil => exact .refl b
  | cons r rest ih =>
      unfold createIfAbsent
      split
      · exact .refl b
      · exact (alike_createTopic b r.name r.layout).trans (ih _)

/-- A publish that fails changes nothing that can be seen. -/
theorem alike_publish_of_error {out : OutgoingRecord} {now : Int64} {e : BusError}
    (h : (b.publish out now).1 = .error e) : Alike b (b.publish out now).2 := by
  rcases publish_of_error h with hsame | hless
  · rw [hsame]
    exact .refl b
  · rw [hless]
    exact ⟨⟨fun _ => rfl, rfl⟩, rfl, rfl⟩

/-- Subscriptions have numbers below the next one. -/
def Issued (b : Broker) : Prop := ∀ s ∈ b.subscriptions, s.id < b.nextSubscription

/-- Logs are numbered, and so are subscriptions. -/
structure Lawful (b : Broker) : Prop where
  numbered : b.Numbered
  issued : b.Issued

/-- A lawful broker stays lawful while nothing but its topics changes. -/
theorem Lawful.of_alike (h : b.Lawful) (halike : Alike b b') : b'.Lawful where
  numbered := h.numbered.of_records halike.records
  issued := by
    intro s hs
    rw [halike.subscriptions] at hs
    rw [halike.nextSubscription]
    exact h.issued s hs

/-! ## §2. Looking up a subscription. -/

/-- Where the subscriptions are the same, so is what is found among them. -/
theorem subscription?_of_subscriptions (h : b'.subscriptions = b.subscriptions) (id : Nat) :
    b'.subscription? id = b.subscription? id := by
  unfold subscription?
  rw [h]

/-- What is done to every subscription is seen on each. -/
theorem subscription?_map {f : Subscription → Subscription}
    (h : b'.subscriptions = b.subscriptions.map f) (hid : ∀ s, (f s).id = s.id) (id : Nat) :
    b'.subscription? id = (b.subscription? id).map f := by
  unfold subscription?
  rw [h, List.find?_map]
  congr 1
  congr 1
  funext s
  show ((f s).id == id) = (s.id == id)
  rw [hid]

/-- Numbers that were not handed out yet name no subscription. -/
theorem subscription?_of_le (h : b.Issued) (hid : b.nextSubscription ≤ id) :
    b.subscription? id = none := by
  unfold subscription?
  rw [List.find?_eq_none]
  intro s hs hsame
  have hlt := h s hs
  rw [beq_iff_eq.1 hsame] at hlt
  omega

/-! ## §3. Operations on subscriptions. -/

/-- To receive is to take the head of an open inbox; otherwise nothing happens. -/
theorem receive_eq (b : Broker) (id : Nat) :
    b.receive id = (none, b) ∨ ∃ s r rest, b.subscription? id = some s ∧ s.inbox = r :: rest
      ∧ b.receive id = (some r, { b with
          subscriptions := b.subscriptions.map fun s =>
            if s.id == id then { s with inbox := rest } else s }) := by
  unfold receive
  cases hs : b.subscription? id with
  | none => exact Or.inl rfl
  | some s =>
      cases hinbox : s.inbox with
      | nil =>
          left
          simp only [Option.map_some, hinbox]
      | cons r rest =>
          refine Or.inr ⟨s, r, rest, rfl, hinbox, ?_⟩
          simp only [Option.map_some, hinbox]

/-- To receive touches neither logs nor commits. -/
theorem still_receive (b : Broker) (id : Nat) : Still b (b.receive id).2 := by
  rcases receive_eq b id with h | ⟨s, r, rest, _, _, h⟩
  · rw [h]
    exact ⟨fun _ => rfl, rfl⟩
  · rw [h]
    exact ⟨fun _ => rfl, rfl⟩

theorem still_close (b : Broker) (id : Nat) : Still b (b.close id) := ⟨fun _ => rfl, rfl⟩

/-- To subscribe touches neither logs nor commits. -/
theorem still_subscribe (b : Broker) (topic group : String) : Still b (b.subscribe topic group).2 :=
  have h := alike_createTopic b topic {}
  ⟨h.records, h.committed⟩

/-- Subscriptions that keep their numbers keep the account of numbers handed out. -/
theorem issued_map {f : Subscription → Subscription} (h : b.Issued)
    (hsubs : b'.subscriptions = b.subscriptions.map f) (hid : ∀ s, (f s).id = s.id)
    (hnext : b'.nextSubscription = b.nextSubscription) : b'.Issued := by
  intro s hs
  rw [hsubs] at hs
  obtain ⟨s', hs', rfl⟩ := List.mem_map.1 hs
  rw [hid, hnext]
  exact h s' hs'

/-- To receive keeps a broker lawful. -/
theorem Lawful.receive (h : b.Lawful) (id : Nat) : (b.receive id).2.Lawful := by
  refine ⟨h.numbered.of_records (still_receive b id).records, ?_⟩
  rcases receive_eq b id with heq | ⟨s, r, rest, _, _, heq⟩
  · rw [heq]
    exact h.issued
  · rw [heq]
    refine issued_map h.issued rfl (fun s => ?_) rfl
    split <;> rfl

theorem Lawful.close (h : b.Lawful) (id : Nat) : (b.close id).Lawful :=
  ⟨h.numbered.of_records (still_close b id).records, fun s hs =>
    h.issued s (List.mem_filter.1 hs).1⟩

/-- A commit keeps a broker lawful. -/
theorem Lawful.setCommitted (h : b.Lawful) (group topic : String) (offset : Int64) :
    (b.setCommitted group topic offset).Lawful := ⟨h.numbered, h.issued⟩

/-- The new number is the next one, so a subscription keeps a broker lawful. -/
theorem Lawful.subscribe (h : b.Lawful) (topic group : String) :
    (b.subscribe topic group).2.Lawful := by
  refine ⟨h.numbered.of_records (still_subscribe b topic group).records, ?_⟩
  have halike := alike_createTopic b topic {}
  intro s hs
  have hs : s ∈ (b.createTopic topic {}).subscriptions ++ [_] := hs
  show s.id < (b.createTopic topic {}).nextSubscription + 1
  rw [halike.nextSubscription]
  rcases List.mem_append.1 hs with hs | hs
  · rw [halike.subscriptions] at hs
    have hlt := h.issued s hs
    omega
  · rw [List.mem_singleton] at hs
    rw [hs]
    show (b.createTopic topic {}).nextSubscription < _
    rw [halike.nextSubscription]
    omega

/-- A publish that succeeds keeps a broker lawful: the record's offset is its place. -/
theorem Lawful.publish {out : OutgoingRecord} {now : Int64} (h : b.Lawful)
    (hok : (b.publish out now).1 = .ok ()) : (b.publish out now).2.Lawful := by
  refine ⟨h.numbered.publish hok, ?_⟩
  rw [publish_of_ok hok]
  have halike := alike_createTopic b out.topic {}
  refine issued_map (h.of_alike halike).issued rfl (fun s => ?_) rfl
  split <;> rfl

/-! ## §4. Serving a topic from an offset on. -/

/-- The subscription has the records of its topic from the offset on in its inbox. -/
structure Serves (b : Broker) (group topic : String) (id n : Nat) : Prop where
  subscription : b.subscription? id = some ⟨id, topic, group, (b.records topic).drop n⟩
  within : n ≤ (b.records topic).length

/-- A subscription serves as before while the logs and its inbox stay as they are. -/
theorem Serves.of_same (h : Serves b group topic id n)
    (hrecords : ∀ topic, b'.records topic = b.records topic)
    (hsub : b'.subscription? id = b.subscription? id) : Serves b' group topic id n := by
  refine ⟨?_, ?_⟩
  · rw [hsub, hrecords, h.subscription]
  · rw [hrecords]
    exact h.within

theorem Serves.of_alike (h : Serves b group topic id n) (halike : Alike b b') :
    Serves b' group topic id n :=
  h.of_same halike.records (subscription?_of_subscriptions halike.subscriptions id)

/-- What is committed does not matter to an open subscription. -/
theorem Serves.setCommitted (h : Serves b group topic id n) (g t : String) (offset : Int64) :
    Serves (b.setCommitted g t offset) group topic id n :=
  h.of_same (fun _ => rfl) rfl

/-- **A publish adds a record to the log and to the inbox.** -/
theorem Serves.publish {out : OutgoingRecord} {now : Int64} (h : Serves b group topic id n)
    (hok : (b.publish out now).1 = .ok ()) : Serves (b.publish out now).2 group topic id n := by
  have halike := alike_createTopic b out.topic {}
  have hcreated := h.of_alike halike
  have hrecords := records_append (hasTopic_createTopic (b := b) out.topic {}) now topic
  rw [publish_of_ok hok]
  refine ⟨?_, ?_⟩
  · rw [subscription?_map (b := b.createTopic out.topic {}) rfl (fun s => by split <;> rfl),
      hcreated.subscription]
    show some (if (topic == out.topic) = true then _ else _) = some (Subscription.mk id topic group _)
    -- the inbox is a rest of the log, so what is added to the log is added to the rest
    rw [hrecords, List.drop_append_of_le_length hcreated.within]
    by_cases htopic : out.topic = topic
    · subst htopic
      rw [beq_self_eq_true, if_pos rfl, if_pos rfl]
    · have hne : ¬topic = out.topic := fun heq => htopic heq.symm
      rw [beq_false_of_ne hne, if_neg htopic, List.append_nil]
      rfl
  · show n ≤ (((b.createTopic out.topic {}).append out now).records topic).length
    rw [hrecords, List.length_append]
    have hwithin := hcreated.within
    omega

/-- Receiving elsewhere leaves the subscription alone. -/
theorem Serves.receive_other {id' : Nat} (h : Serves b group topic id n) (hne : id ≠ id') :
    Serves (b.receive id').2 group topic id n := by
  refine h.of_same (still_receive b id').records ?_
  rcases receive_eq b id' with heq | ⟨s, r, rest, _, _, heq⟩
  · rw [heq]
  · rw [heq, subscription?_map (b := b) rfl (fun s => by split <;> rfl), h.subscription]
    show some (if (id == id') = true then _ else _) = _
    rw [beq_false_of_ne hne]
    rfl

/-- Closing another subscription does not disturb this one. -/
theorem Serves.close_other {id' : Nat} (h : Serves b group topic id n) (hne : id ≠ id') :
    Serves (b.close id') group topic id n := by
  refine h.of_same (still_close b id').records ?_
  unfold close subscription?
  rw [List.find?_filter]
  congr 1
  funext s
  rw [Bool.eq_iff_iff, decide_eq_true_eq]
  constructor
  · exact fun hboth => hboth.2
  · intro hid
    refine ⟨?_, hid⟩
    rw [beq_iff_eq] at hid
    rw [hid]
    exact bne_iff_ne.2 hne

/-- **Receiving gives the next record and moves on by one.** -/
theorem Serves.receive_some {r : Record} (h : Serves b group topic id n)
    (hr : (b.receive id).1 = some r) :
    (b.records topic)[n]? = some r ∧ Serves (b.receive id).2 group topic id (n + 1) := by
  rcases receive_eq b id with heq | ⟨s, r', rest, hs, hinbox, heq⟩
  · rw [heq] at hr
    cases hr
  · rw [h.subscription] at hs
    cases hs
    have hdrop : (b.records topic).drop n = r' :: rest := hinbox
    rw [heq] at hr
    cases hr
    have hget : (b.records topic)[n]? = some r := by
      rw [← Nat.add_zero n, ← List.getElem?_drop, hdrop]
      rfl
    have hlt : n < (b.records topic).length := (List.getElem?_eq_some_iff.1 hget).1
    have hrest : (b.records topic).drop (n + 1) = rest := by
      rw [← List.drop_drop, hdrop]
      rfl
    refine ⟨hget, ?_, ?_⟩
    · rw [heq, subscription?_map (b := b) rfl (fun s => by split <;> rfl), h.subscription]
      show some (if (id == id) = true then _ else _)
        = some (Subscription.mk id topic group ((b.records topic).drop (n + 1)))
      rw [beq_self_eq_true, if_pos rfl, hrest]
    · rw [(still_receive b id).records]
      exact hlt

/-- A record at the offset is received. -/
theorem Serves.exists_receive {r : Record} (h : Serves b group topic id n)
    (hr : (b.records topic)[n]? = some r) : (b.receive id).1 = some r := by
  rcases receive_eq b id with heq | ⟨s, r', rest, hs, hinbox, heq⟩
  · -- an inbox with the record in front is not empty
    exfalso
    have hdrop : (b.records topic).drop n = r :: (b.records topic).drop (n + 1) := by
      obtain ⟨hlt, hget⟩ := List.getElem?_eq_some_iff.1 hr
      rw [List.drop_eq_getElem_cons hlt, hget]
    unfold receive at heq
    rw [h.subscription, hdrop] at heq
    cases heq
  · rw [h.subscription] at hs
    cases hs
    have hdrop : (b.records topic).drop n = r' :: rest := hinbox
    rw [← Nat.add_zero n, ← List.getElem?_drop, hdrop] at hr
    cases hr
    rw [heq]

/-- A new subscription leaves the others alone. -/
theorem Serves.subscribe_other (h : Serves b group topic id n) (hissued : b.Issued)
    (t g : String) : Serves (b.subscribe t g).2 group topic id n := by
  refine h.of_same (still_subscribe b t g).records ?_
  have halike := alike_createTopic b t {}
  -- the new subscription has a number that none has, so the old one is still the first one found
  have hid : id < b.nextSubscription := by
    have hmem := List.mem_of_find?_eq_some h.subscription
    exact hissued _ hmem
  show ((b.createTopic t {}).subscriptions ++ [_]).find? (fun s : Subscription => s.id == id) = _
  rw [halike.subscriptions, List.find?_append]
  have hsub := h.subscription
  unfold subscription? at hsub ⊢
  rw [hsub]
  rfl

/-- **A new subscription serves its topic from the floor on.** -/
theorem serves_subscribe (hlawful : b.Lawful) (hfits : b.Fits) (topic group : String)
    (hfloor : b.floor group topic ≤ (b.records topic).length) :
    Serves (b.subscribe topic group).2 group topic b.nextSubscription (b.floor group topic) := by
  have halike := alike_createTopic b topic {}
  have hrecords := (still_subscribe b topic group).records topic
  refine ⟨?_, ?_⟩
  · have hnone := subscription?_of_le hlawful.issued (Nat.le_refl b.nextSubscription)
    have hinbox : ((b.createTopic topic {}).records topic).filter
        (fun r => decide ((b.committed? group topic).getD 0 ≤ r.offset))
        = (b.records topic).drop (b.floor group topic) := by
      rw [records_createTopic]
      exact hlawful.numbered.filter_le hfits _ topic
    show ((b.createTopic topic {}).subscriptions ++ [Subscription.mk
      (b.createTopic topic {}).nextSubscription topic group _]).find?
        (fun s => s.id == b.nextSubscription) = _
    rw [halike.subscriptions, halike.nextSubscription, List.find?_append]
    unfold subscription? at hnone
    rw [hnone, hinbox, hrecords]
    simp
  · rw [hrecords]
    exact hfloor

end Broker

end Redelivery
