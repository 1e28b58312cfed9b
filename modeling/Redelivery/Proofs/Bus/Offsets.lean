/-
  Redelivery.Proofs.Bus.Offsets
  ─────────────────────────────
  **Offsets and committed offsets.**

  A log is numbered from zero, so the records from an offset on are what is
  left when as many are dropped.  The floor of a topic is the offset that a
  group wants next, as a natural number; nothing but a commit moves it.

      filter (start ≤ ·.offset) log = log.drop floor

  Offsets have 64 bits: the statements are about logs that `Fit`.
-/
import Redelivery.Proofs.Bus.Logs

namespace Redelivery

namespace Broker

variable {b : Broker} {group topic : String}

/-- Every record lies on its topic, at the offset that it has. -/
def Numbered (b : Broker) : Prop :=
  ∀ topic k r, (b.records topic)[k]? = some r → r.topic = topic ∧ r.offset = Int64.ofNat k

/-- Every offset has a number of its own: no log has `2 ^ 63` records, more than any memory
holds. -/
def Fits (b : Broker) : Prop := ∀ topic, (b.records topic).length < 9223372036854775808

/-- The offset that a group wants next of a topic. -/
def floor (b : Broker) (group topic : String) : Nat :=
  ((b.committed? group topic).getD 0).toInt.toNat

/-! ## §1. Numbered logs. -/

theorem fits_of_topics (h : ∀ t ∈ b.topics, t.records.length < 9223372036854775808) :
    b.Fits := by
  intro topic
  unfold records
  cases hlog : b.log? topic with
  | none => decide
  | some t => exact h t (List.mem_of_find?_eq_some hlog)

theorem Numbered.of_records {b' : Broker} (h : b.Numbered)
    (hrecords : ∀ topic, b'.records topic = b.records topic) : b'.Numbered := by
  intro topic k r hr
  rw [hrecords] at hr
  exact h topic k r hr

theorem Numbered.publish {out : OutgoingRecord} {now : Int64} (h : b.Numbered)
    (hok : (b.publish out now).1 = .ok ()) : (b.publish out now).2.Numbered := by
  intro topic k r hr
  rw [records_publish hok] at hr
  by_cases htopic : out.topic = topic
  · rw [if_pos htopic] at hr
    subst htopic
    rcases getElem?_concat_cases hr with ⟨rfl, rfl⟩ | ⟨_, hold⟩
    · exact ⟨rfl, rfl⟩
    · exact h out.topic k r hold
  · rw [if_neg htopic, List.append_nil] at hr
    exact h topic k r hr

/-- A record of a log that fits is found at its offset. -/
theorem Numbered.toInt_offset (h : b.Numbered) (hfits : b.Fits) {k : Nat} {r : Record}
    (hr : (b.records topic)[k]? = some r) : r.offset.toInt = k := by
  have hlt := hfits topic
  have hk : k < (b.records topic).length := (List.getElem?_eq_some_iff.1 hr).1
  rw [(h topic k r hr).2, Int64.toInt_ofNat_of_lt (by omega)]

/-- **The records from an offset on.** -/
theorem Numbered.filter_le (h : b.Numbered) (hfits : b.Fits) (start : Int64) (topic : String) :
    (b.records topic).filter (fun r => decide (start ≤ r.offset))
      = (b.records topic).drop start.toInt.toNat := by
  -- at place k the question is whether `start` is at most k
  have hat : ∀ k r, (b.records topic)[k]? = some r →
      (decide (start ≤ r.offset) = true ↔ start.toInt.toNat ≤ k) := by
    intro k r hr
    rw [decide_eq_true_eq, Int64.le_iff_toInt_le, h.toInt_offset hfits hr]
    omega
  -- from here on it is about any list that the question splits at one place
  revert hat
  generalize b.records topic = log
  generalize start.toInt.toNat = n
  intro hat
  rw [← List.take_append_drop n log, List.filter_append]
  have htake : (log.take n).filter (fun r => decide (start ≤ r.offset)) = [] := by
    rw [List.filter_eq_nil_iff]
    intro r hr
    obtain ⟨k, hk, hget⟩ := List.mem_take_iff_getElem.1 hr
    have hiff := hat k r (by rw [← hget]; exact List.getElem?_eq_getElem (by omega))
    rw [hiff]
    omega
  have hdrop : (log.drop n).filter (fun r => decide (start ≤ r.offset)) = log.drop n := by
    rw [List.filter_eq_self]
    intro r hr
    obtain ⟨k, hk, hget⟩ := List.mem_drop_iff_getElem.1 hr
    have hiff := hat (n + k) r (by rw [← hget]; exact List.getElem?_eq_getElem (by omega))
    rw [hiff]
    omega
  rw [htake, hdrop, List.nil_append, List.take_append_drop]

/-! ## §2. Floors. -/

theorem floor_of_committed {b' : Broker} (h : b'.committed = b.committed) (group topic : String) :
    b'.floor group topic = b.floor group topic := by
  unfold floor committed?
  rw [h]

/-- A commit of one group on one topic is not seen anywhere else. -/
theorem committed?_setCommitted_other {group' topic' : String} {offset : Int64}
    (h : ¬(group' = group ∧ topic' = topic)) :
    (b.setCommitted group topic offset).committed? group' topic' = b.committed? group' topic' := by
  -- what has the one key does not have the other
  have hother : ∀ g t : String, (g == group' && t == topic') = true →
      (g == group && t == topic) = false := by
    intro g t hkey
    obtain ⟨hg, ht⟩ := Bool.and_eq_true_iff.1 hkey
    rw [beq_iff_eq.1 hg, beq_iff_eq.1 ht, ← Bool.not_eq_true, Bool.and_eq_true, beq_iff_eq,
      beq_iff_eq]
    exact h
  have hlast : ([⟨group, topic, offset⟩] : List CommittedOffset).find?
      (fun c => c.group == group' && c.topic == topic') = none := by
    rw [List.find?_singleton, if_neg]
    intro hkey
    have hsame := hother group topic hkey
    rw [beq_self_eq_true, beq_self_eq_true] at hsame
    cases hsame
  unfold setCommitted committed?
  rw [List.find?_append, List.find?_filter, hlast, Option.or_none]
  congr 2
  funext c
  rw [Bool.eq_iff_iff, decide_eq_true_eq]
  refine ⟨fun hboth => hboth.2, fun hkey => ⟨?_, hkey⟩⟩
  rw [hother c.group c.topic hkey]
  rfl

theorem committed?_setCommitted (offset : Int64) (topic' : String) :
    (b.setCommitted group topic offset).committed? group topic'
      = if topic' = topic then some offset else b.committed? group topic' := by
  by_cases htopic : topic' = topic
  · subst htopic
    -- what was committed before is taken out, so the new offset is the first one found
    have hnone : (b.committed.filter fun c => !(c.group == group && c.topic == topic')).find?
        (fun c => c.group == group && c.topic == topic') = none := by
      rw [List.find?_eq_none]
      intro c hc hkey
      have hother := (List.mem_filter.1 hc).2
      rw [hkey] at hother
      exact Bool.noConfusion hother
    unfold setCommitted committed?
    rw [List.find?_append, hnone, if_pos rfl]
    simp
  · rw [if_neg htopic, committed?_setCommitted_other fun hboth => htopic hboth.2]

/-- The offset after that of a record. -/
theorem toInt_offset_succ {k : Nat} {offset : Int64} (hoffset : offset.toInt = k)
    (hk : k + 1 < 9223372036854775808) : (offset + 1).toInt = (k : Int) + 1 := by
  have hofNat : offset + 1 = Int64.ofNat (k + 1) := by
    rw [Int64.ofNat_add, ← Int64.toInt_inj.1 ((Int64.toInt_ofNat_of_lt (by omega)).trans hoffset.symm)]
    rfl
  rw [hofNat, Int64.toInt_ofNat_of_lt hk]
  omega

/-- The greater of two offsets. -/
theorem toInt_max (m n : Int64) : (max m n).toInt = max m.toInt n.toInt := by
  by_cases hle : m ≤ n
  · have hmax : max m n = n := if_pos hle
    rw [Int64.le_iff_toInt_le] at hle
    rw [hmax]
    omega
  · have hmax : max m n = m := if_neg hle
    rw [Int64.le_iff_toInt_le] at hle
    rw [hmax]
    omega

/-- **A commit moves the floor of its topic up to the offset after the record, never down.** -/
theorem floor_setCommitted_max {k : Nat} {offset : Int64} (hoffset : offset.toInt = k)
    (hk : k + 1 < 9223372036854775808) (topic' : String) :
    (b.setCommitted group topic (max ((b.committed? group topic).getD 0) (offset + 1))).floor group
        topic'
      = if topic' = topic then max (b.floor group topic) (k + 1) else b.floor group topic' := by
  unfold floor
  rw [committed?_setCommitted]
  by_cases htopic : topic' = topic
  · rw [if_pos htopic, if_pos htopic]
    -- the maximum is taken on 64 bits, and the floor is read off it
    show (max _ (offset + 1)).toInt.toNat = _
    rw [toInt_max, toInt_offset_succ hoffset hk]
    omega
  · rw [if_neg htopic, if_neg htopic]

end Broker

end Redelivery
