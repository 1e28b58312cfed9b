/-
  Redelivery.Proofs.Bus.Logs
  ──────────────────────────
  **What happens to the logs of a broker.**

  The view of a broker is `records`: what was ever published to a topic.
  Creating topics changes no log, and a publish that succeeds puts one record
  at the end of one log:

      records (append b r now) t = records b t ++ if r.topic = t then [stored …] else []
-/
import Redelivery.Bus.Broker

namespace Redelivery

/-- What stands in a list with one more at its end is that one, or stood there before. -/
theorem getElem?_concat_cases {α : Type} {l : List α} {a x : α} {k : Nat}
    (h : (l ++ [a])[k]? = some x) : (k = l.length ∧ x = a) ∨ (k < l.length ∧ l[k]? = some x) := by
  rcases Nat.lt_or_ge k l.length with hlt | hge
  · rw [List.getElem?_append_left hlt] at h
    exact Or.inr ⟨hlt, h⟩
  · have hlast : k < (l ++ [a]).length := (List.getElem?_eq_some_iff.1 h).1
    rw [List.length_append, List.length_singleton] at hlast
    have hk : k = l.length := by omega
    subst hk
    rw [List.getElem?_concat_length] at h
    exact Or.inl ⟨rfl, (Option.some.inj h).symm⟩

namespace Broker

variable {b : Broker}

/-! ## §1. Creating topics. -/

theorem hasTopic_iff_log? (name : String) : b.hasTopic name = true ↔ ∃ t, b.log? name = some t := by
  unfold hasTopic log?
  rw [List.any_eq_true, ← Option.isSome_iff_exists, List.find?_isSome]

theorem createTopic_of_hasTopic {name : String} (layout : Layout) (h : b.hasTopic name = true) :
    b.createTopic name layout = b := by
  unfold createTopic
  rw [if_pos h]

theorem topics_createTopic {name : String} (layout : Layout) (h : b.hasTopic name = false) :
    (b.createTopic name layout).topics = b.topics ++ [TopicLog.mk name layout []] := by
  unfold createTopic
  rw [h]
  rfl

theorem hasTopic_createTopic (name : String) (layout : Layout) :
    (b.createTopic name layout).hasTopic name = true := by
  cases h : b.hasTopic name with
  | true => rw [createTopic_of_hasTopic layout h, h]
  | false =>
      unfold hasTopic
      rw [topics_createTopic layout h]
      simp

/-- **Creating a topic changes no log.** -/
@[simp] theorem records_createTopic (name : String) (layout : Layout) (topic : String) :
    (b.createTopic name layout).records topic = b.records topic := by
  cases h : b.hasTopic name with
  | true => rw [createTopic_of_hasTopic layout h]
  | false =>
      unfold records log?
      rw [topics_createTopic layout h, List.find?_append]
      cases hlog : b.topics.find? fun t => t.name == topic with
      | some t => rfl
      | none =>
          -- the log that was made is empty, and so is one that is not there
          by_cases hname : name = topic
          · simp [hname]
          · simp [hname]

/-! ## §2. Publishing. -/

/-- Putting a record at the end of the logs of one name. -/
theorem find?_appendTo (topics : List TopicLog) (name topic : String) (record : Record) :
    (topics.map fun t => if t.name == name then { t with records := t.records ++ [record] } else t).find?
        (fun t => t.name == topic)
      = (topics.find? fun t => t.name == topic).map fun t =>
          if topic = name then { t with records := t.records ++ [record] } else t := by
  induction topics with
  | nil => rfl
  | cons t topics ih =>
      have hsame : (if t.name == name then { t with records := t.records ++ [record] } else t).name
          = t.name := by
        split <;> rfl
      rw [List.map_cons, List.find?_cons, List.find?_cons, hsame]
      by_cases htopic : t.name = topic
      · subst htopic
        rw [beq_self_eq_true]
        by_cases hname : t.name = name
        · simp [hname]
        · simp [hname]
      · rw [beq_false_of_ne htopic]
        exact ih

/-- **A record goes to the end of the log of its topic.** -/
theorem records_append {r : OutgoingRecord} (h : b.hasTopic r.topic = true) (now : Int64)
    (topic : String) :
    (b.append r now).records topic
      = b.records topic
        ++ if r.topic = topic then [stored r (b.records r.topic).length now] else [] := by
  -- a topic that is not there would have no log to add to
  obtain ⟨log, hlog⟩ := (hasTopic_iff_log? r.topic).1 h
  unfold records log? append
  rw [find?_appendTo]
  by_cases htopic : r.topic = topic
  · subst htopic
    unfold log? at hlog
    rw [hlog]
    simp [records, log?, hlog]
  · rw [if_neg htopic, List.append_nil]
    have hne : ¬topic = r.topic := fun h => htopic h.symm
    simp only [if_neg hne]
    cases b.topics.find? fun t => t.name == topic with
    | none => rfl
    | some t => rfl

/-- A publish succeeds where none is made to fail and the topic may be made. -/
theorem publish_of_ok {r : OutgoingRecord} {now : Int64} (h : (b.publish r now).1 = .ok ()) :
    b.publish r now = (.ok (), (b.createTopic r.topic {}).append r now) := by
  unfold publish at h ⊢
  by_cases hfailing : 0 < b.failing
  · rw [if_pos hfailing] at h
    cases h
  · rw [if_neg hfailing] at h ⊢
    by_cases hstrict : b.strict ∧ ¬b.hasTopic r.topic
    · rw [if_pos hstrict] at h
      cases h
    · rw [if_neg hstrict]

/-- To a topic that exists a publish succeeds where none is made to fail. -/
theorem publish_of_hasTopic {r : OutgoingRecord} (h : b.hasTopic r.topic = true)
    (hnone : b.failing = 0) (now : Int64) : (b.publish r now).1 = .ok () := by
  unfold publish
  rw [hnone, h]
  simp

/-- A publish that fails uses up one of the failures that were asked for, if any. -/
theorem publish_of_error {r : OutgoingRecord} {now : Int64} {e : BusError}
    (h : (b.publish r now).1 = .error e) :
    (b.publish r now).2 = b ∨ (b.publish r now).2 = { b with failing := b.failing - 1 } := by
  unfold publish at h ⊢
  by_cases hfailing : 0 < b.failing
  · rw [if_pos hfailing]
    exact Or.inr rfl
  · rw [if_neg hfailing] at h ⊢
    by_cases hstrict : b.strict ∧ ¬b.hasTopic r.topic
    · rw [if_pos hstrict]
      exact Or.inl rfl
    · rw [if_neg hstrict] at h
      cases h

/-- **A publish that fails changes no log and creates no topic.** -/
theorem topics_publish_of_error {out : OutgoingRecord} {now : Int64} {e : BusError}
    (h : (b.publish out now).1 = .error e) : (b.publish out now).2.topics = b.topics := by
  rcases publish_of_error h with hsame | hless
  · rw [hsame]
  · rw [hless]

/-- **A publish that succeeds adds one record to one log.** -/
theorem records_publish {r : OutgoingRecord} {now : Int64} (h : (b.publish r now).1 = .ok ())
    (topic : String) :
    (b.publish r now).2.records topic
      = b.records topic
        ++ if r.topic = topic then [stored r (b.records r.topic).length now] else [] := by
  rw [publish_of_ok h]
  show ((b.createTopic r.topic {}).append r now).records topic = _
  rw [records_append (hasTopic_createTopic r.topic {}), records_createTopic, records_createTopic]

end Broker

end Redelivery
