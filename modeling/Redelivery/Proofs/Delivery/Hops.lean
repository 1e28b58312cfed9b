/-
  Redelivery.Proofs.Delivery.Hops
  ───────────────────────────────
  **Hops preserve the record.**

  A copy has the key and the value of the record, and of its headers
  everything but the two that each hop sets anew.  The first hop completes
  what is known about the first failure; later hops find nothing missing, so
  from there on the headers stay as they are and as many as they are.  The
  delivery count starts anew on every topic and grows by one on the same,
  held within 31 bits.
-/
import Redelivery.Proofs.Delivery.Course
import Redelivery.Proofs.Delivery.Headers

namespace Redelivery

open Headers

/-! ## §1. The delivery count. -/

theorem toInt_toInt32_of_le {n : UInt32} (hn : n ≤ 2147483647) : n.toInt32.toInt = n.toNat := by
  have hofNat : n.toInt32 = Int32.ofNat n.toNat := by
    rw [← UInt32.toInt32_ofNat', UInt32.ofNat_toNat]
  have hlt : n.toNat ≤ 2147483647 := UInt32.le_iff_toNat_le.1 hn
  rw [hofNat, Int32.toInt_ofNat_of_lt (by omega)]

/-- A delivery count that was read is positive and has at most 31 bits. -/
theorem Headers.attempt_bounds (h : Headers) :
    0 < h.attempt.toNat ∧ h.attempt.toNat ≤ 2147483647 := by
  unfold Headers.attempt
  split
  · rename_i a _
    split
    · rename_i ha
      have hpos : (0 : Int) < a.toInt := Int32.lt_iff_toInt_lt.1 ha
      have hlt := a.toInt_lt
      have hle : (0 : Int32) ≤ a := Int32.le_iff_toInt_le.2 (Int.le_of_lt hpos)
      rw [Int32.toNat_toUInt32_of_le hle]
      show 0 < a.toInt.toNat ∧ a.toInt.toNat ≤ 2147483647
      omega
    · decide
  · decide

/-- A written delivery count is read back as it was, but never above 31 bits. -/
theorem Listener.toNat_writtenAttempt {n : UInt32} (hn : 0 < n.toNat) :
    (if 0 < Listener.writtenAttempt n then (Listener.writtenAttempt n).toUInt32 else 1).toNat
      = min n.toNat 2147483647 := by
  unfold Listener.writtenAttempt
  -- what does not fit into 31 bits is written as the largest number that does
  by_cases hle : n ≤ 2147483647
  · have hnat : n.toNat ≤ 2147483647 := UInt32.le_iff_toNat_le.1 hle
    have hpos : 0 < n.toInt32 := by
      rw [Int32.lt_iff_toInt_lt, toInt_toInt32_of_le hle]
      show (0 : Int) < n.toNat
      omega
    rw [if_pos hle, if_pos hpos, UInt32.toUInt32_toInt32]
    omega
  · have hnat : 2147483647 < n.toNat := by
      rw [UInt32.le_iff_toNat_le] at hle
      exact Nat.lt_of_not_le hle
    rw [if_neg hle, if_pos (by decide)]
    show 2147483647 = _
    omega

/-! ## §2. Reading a copy. -/

namespace Listener

variable {l : Listener} {r : Record} {f : Failure} {next : Destination} {n : UInt32} {now : Int64}

theorem values_outgoing (key : String) :
    (l.outgoing r f next n now).headers.values key
      = (if isRenewed key then [] else r.headers.values key)
        ++ (if r.headers.contains key then [] else valuesIn (l.firstFailureEntries r f now) key)
        ++ valuesIn [(attempts, .ofInt32 (writtenAttempt n)),
            (due, .ofInt64 (dueTime now next.delay))] key := by
  show valuesIn (l.outgoing r f next n now).headers.entries key = _
  rw [entries_outgoing, valuesIn_append, valuesIn_append, valuesIn_carried, valuesIn_missing]

/-- The entries about the first failure say nothing about the renewed keys. -/
theorem valuesIn_firstFailureEntries_of_renewed {key : String} (hkey : isRenewed key = true) :
    valuesIn (l.firstFailureEntries r f now) key = [] := by
  rw [valuesIn, List.map_eq_nil_iff, List.filter_eq_nil_iff]
  intro e he hek
  have hmem : e.1 ∈ firstFailureKeys := List.mem_map_of_mem he
  rw [beq_iff_eq.1 hek] at hmem
  rw [not_isRenewed_of_mem hmem] at hkey
  exact Bool.noConfusion hkey

theorem values_attempts_outgoing :
    (l.outgoing r f next n now).headers.values attempts = [.ofInt32 (writtenAttempt n)] := by
  have hkey : isRenewed attempts = true := by decide
  have hdue : (due == attempts) = false := by decide
  rw [values_outgoing, valuesIn_firstFailureEntries_of_renewed hkey, hkey]
  simp [valuesIn, hdue]

theorem toNat_attempt_outgoing (hn : 0 < n.toNat) :
    (l.outgoing r f next n now).headers.attempt.toNat = min n.toNat 2147483647 := by
  have hget : (l.outgoing r f next n now).headers.getInt32? attempts
      = some (writtenAttempt n) := by
    rw [getInt32?, get?_eq_getLast?, values_attempts_outgoing]
    exact Bytes.toInt32?_ofInt32 _
  rw [Headers.attempt, hget]
  exact toNat_writtenAttempt hn

/-- A copy has a value for everything about the first failure. -/
theorem contains_outgoing {key : String} (hkey : key ∈ firstFailureKeys) :
    (l.outgoing r f next n now).headers.contains key = true := by
  rw [contains_iff_values_ne_nil, values_outgoing, not_isRenewed_of_mem hkey]
  -- either the record had the key and it is carried on, or it had not and it is added
  cases hc : r.headers.contains key with
  | true =>
      have hv := (contains_iff_values_ne_nil r.headers key).1 hc
      simp [hv]
  | false =>
      obtain ⟨e, he, hek⟩ := List.mem_map.1 (map_fst_firstFailureEntries l r f now ▸ hkey)
      have hmem : e ∈ (l.firstFailureEntries r f now).filter (fun e => e.1 == key) := by
        rw [List.mem_filter, hek, beq_self_eq_true]
        exact ⟨he, rfl⟩
      have hne : valuesIn (l.firstFailureEntries r f now) key ≠ [] := by
        rw [valuesIn]
        exact List.ne_nil_of_mem (List.mem_map_of_mem hmem)
      simp [hne]

end Listener

/-! ## §3. Hops. -/

/-- Adding nothing that is missing changes nothing. -/
theorem Headers.missing_eq_nil {h : Headers} {entries : List (String × Bytes)}
    (hc : ∀ e ∈ entries, h.contains e.1 = true) : h.missing entries = [] := by
  rw [missing, List.filter_eq_nil_iff]
  intro e he hmissing
  rw [hc e he] at hmissing
  exact Bool.noConfusion hmissing

/-- Carried entries, followed by entries with renewed keys, are carried again without these. -/
theorem Headers.carried_of_entries {h : Headers} {kept : List (String × Bytes)} {count : Int32}
    {time : Int64} (hkept : ∀ e ∈ kept, isRenewed e.1 = false)
    (hh : h.entries = kept ++ [(attempts, .ofInt32 count), (due, .ofInt64 time)]) :
    h.carried = kept ∧ h.size = kept.length + 2 := by
  have hself : kept.filter (fun e => !isRenewed e.1) = kept := by
    rw [List.filter_eq_self]
    intro e he
    rw [hkept e he]
    rfl
  have hattempts : isRenewed attempts = true := by decide
  have hdue : isRenewed due = true := by decide
  constructor
  · rw [carried, hh, List.filter_append, hself]
    simp [hattempts, hdue]
  · rw [size, hh, List.length_append]
    rfl

namespace Listener

variable {l : Listener} {ms : List Mishap} {r r' : Record}

/-- **The entries after a hop.** -/
theorem Hop.entries (hop : l.Hop ms r r') :
    ∃ m earlier count time, ms = m :: earlier
      ∧ r'.headers.entries
          = r.headers.carried ++ r.headers.missing (l.firstFailureEntries r m.failure m.time)
            ++ [(attempts, .ofInt32 count), (due, .ofInt64 time)] := by
  obtain ⟨m, earlier, next, offset, now, hms, _, _, rfl⟩ := hop.copy
  exact ⟨m, earlier, _, _, hms, entries_outgoing l r m.failure next _ m.time⟩

/-- Nothing about the first failure is missing after a hop. -/
theorem Hop.contains (hop : l.Hop ms r r') {key : String} (hkey : key ∈ firstFailureKeys) :
    r'.headers.contains key = true := by
  obtain ⟨m, earlier, next, offset, now, _, _, _, rfl⟩ := hop.copy
  exact contains_outgoing hkey

/-- What a hop carries on and how many headers there are then. -/
theorem Hop.carried (hop : l.Hop ms r r') :
    ∃ m earlier, ms = m :: earlier
      ∧ r'.headers.carried
          = r.headers.carried ++ r.headers.missing (l.firstFailureEntries r m.failure m.time)
      ∧ r'.headers.size = r'.headers.carried.length + 2 := by
  obtain ⟨m, earlier, count, time, hms, hentries⟩ := hop.entries
  have hkept : ∀ e ∈ r.headers.carried
      ++ r.headers.missing (l.firstFailureEntries r m.failure m.time), isRenewed e.1 = false := by
    intro e he
    rw [List.mem_append, Headers.carried, missing, List.mem_filter, List.mem_filter] at he
    rcases he with ⟨_, he⟩ | ⟨he, _⟩
    · exact Bool.not_eq_true' _ ▸ he
    · exact not_isRenewed_of_mem (List.mem_map_of_mem he)
  obtain ⟨hcarried, hsize⟩ := carried_of_entries hkept hentries
  exact ⟨m, earlier, hms, hcarried, hcarried ▸ hsize⟩

/-- **A hop from a copy carries on exactly what it found.** -/
theorem Hop.carried_of_contains (hop : l.Hop ms r r')
    (hc : ∀ key ∈ firstFailureKeys, r.headers.contains key = true) :
    r'.headers.carried = r.headers.carried := by
  obtain ⟨m, earlier, _, hcarried, _⟩ := hop.carried
  have hnone : r.headers.missing (l.firstFailureEntries r m.failure m.time) = [] :=
    missing_eq_nil fun e he => hc e.1 (List.mem_map_of_mem he)
  rw [hcarried, hnone, List.append_nil]

/-- **The delivery count after a hop.** -/
theorem Hop.attempt (hop : l.Hop ms r r') :
    (r'.topic = r.topic → l.node.countsDeliveries = true)
      ∧ r'.headers.attempt.toNat
          = if r'.topic = r.topic then min (r.headers.attempt.toNat + 1) 2147483647 else 1 := by
  have htopic := hop.1
  obtain ⟨m, earlier, next, offset, now, _, hearlier, leaves, rfl⟩ := hop.copy
  show (next.name = r.topic → _) ∧ (l.outgoing r m.failure next _ m.time).headers.attempt.toNat
    = if next.name = r.topic then _ else 1
  rw [htopic]
  by_cases hsame : next.name = l.node.name
  · have hcounts : l.node.countsDeliveries = true := by
      rw [staysInPlace, hsame, beq_self_eq_true, Bool.true_and, Bool.not_eq_false'] at leaves
      exact leaves
    -- the count goes up by one without wrapping: what was read has at most 31 bits
    have hbounds := r.headers.attempt_bounds
    have hnext : (l.firstAttempt r + UInt32.ofNat earlier.length + 1).toNat
        = r.headers.attempt.toNat + 1 := by
      rw [hearlier hcounts, firstAttempt, hcounts, if_pos rfl]
      show (r.headers.attempt + 0 + 1).toNat = _
      rw [UInt32.add_zero, UInt32.toNat_add]
      show (r.headers.attempt.toNat + 1) % 4294967296 = _
      omega
    refine ⟨fun _ => hcounts, ?_⟩
    rw [if_pos hsame, if_pos hsame, toNat_attempt_outgoing (by omega), hnext]
  · refine ⟨fun h => absurd h hsame, ?_⟩
    rw [if_neg hsame, if_neg hsame, toNat_attempt_outgoing (by decide)]
    decide

end Listener

/-! ## §4. Trails. -/

/-- From a copy on, nothing but the renewed headers changes. -/
theorem Trail.carried {r : Record} {later : List Record} (trail : Trail r later)
    (hc : ∀ key ∈ Listener.firstFailureKeys, r.headers.contains key = true)
    (hsize : r.headers.size = r.headers.carried.length + 2) :
    ∀ copy ∈ later, copy.key = r.key ∧ copy.value = r.value
      ∧ copy.headers.carried = r.headers.carried ∧ copy.headers.size = r.headers.size := by
  -- what is asked of the record is true of its copy again, so the induction goes on from there
  induction trail with
  | nil =>
      intro copy hcopy
      exact absurd hcopy List.not_mem_nil
  | @cons l ms r r' later hop onward ih =>
      have hcarried := hop.carried_of_contains hc
      obtain ⟨_, _, _, _, hsize'⟩ := hop.carried
      obtain ⟨m, earlier, next, offset, now, _, _, _, hstored⟩ := hop.copy
      have hkey : r'.key = r.key ∧ r'.value = r.value := by
        rw [hstored]
        exact ⟨rfl, rfl⟩
      have hsame : r'.headers.size = r.headers.size := by rw [hsize', hsize, hcarried]
      intro copy hcopy
      rcases List.mem_cons.1 hcopy with rfl | hlater
      · exact ⟨hkey.1, hkey.2, hcarried, hsame⟩
      · obtain ⟨h₁, h₂, h₃, h₄⟩ := ih (fun key hmem => hop.contains hmem) hsize' copy hlater
        exact ⟨h₁.trans hkey.1, h₂.trans hkey.2, h₃.trans hcarried, h₄.trans hsame⟩

/-- **Hops preserve the record.**  A hop keeps key, value and all headers but the two renewed ones,
in order; it adds what is missing about the first failure, then one delivery count and one due time;
the count is 1 on a new topic and one more, held within 31 bits, on the same.  All later copies
have the same key and value, carry the same headers and have as many. -/
theorem hop_preserves_record {l : Listener} {ms : List Mishap} {r r' : Record}
    {later : List Record} (hop : l.Hop ms r r') (trail : Trail r' later) :
    r'.key = r.key ∧ r'.value = r.value
      ∧ (∃ m earlier count time, ms = m :: earlier
          ∧ r'.headers.entries
              = r.headers.carried ++ r.headers.missing (l.firstFailureEntries r m.failure m.time)
                ++ [(attempts, .ofInt32 count), (due, .ofInt64 time)])
      ∧ (r'.topic = r.topic → l.node.countsDeliveries = true)
      ∧ r'.headers.attempt.toNat
          = (if r'.topic = r.topic then min (r.headers.attempt.toNat + 1) 2147483647 else 1)
      ∧ ∀ copy ∈ later, copy.key = r.key ∧ copy.value = r.value
          ∧ copy.headers.carried = r'.headers.carried ∧ copy.headers.size = r'.headers.size := by
  obtain ⟨m, earlier, next, offset, now, _, _, _, hstored⟩ := hop.copy
  have hkey : r'.key = r.key ∧ r'.value = r.value := by
    rw [hstored]
    exact ⟨rfl, rfl⟩
  obtain ⟨_, _, _, _, hsize⟩ := hop.carried
  refine ⟨hkey.1, hkey.2, hop.entries, hop.attempt.1, hop.attempt.2, ?_⟩
  intro copy hcopy
  obtain ⟨h₁, h₂, h₃, h₄⟩ := trail.carried (fun key hmem => hop.contains hmem) hsize copy hcopy
  exact ⟨h₁.trans hkey.1, h₂.trans hkey.2, h₃, h₄⟩

/-! ## §5. Two hops of one record. -/

namespace Orders

/-- The main node of a small chain. -/
def main : Destination := ⟨"orders", "orders", .main, 0, 1, true, false⟩

/-- Its terminal node, which counts deliveries. -/
def deadLetters : Destination := ⟨"orders", "orders-dlt", .deadLetter, 0, 1, true, false⟩

/-- A stage with the chain in force. -/
def stage : Stage := { registry := ⟨[⟨"orders", [main, deadLetters], {}⟩]⟩ }

/-- A record with a header that repeats and a malformed delivery count between. -/
def record : Record where
  topic := "orders"
  headers := ⟨[("a", [1]), (Headers.attempts, [7]), ("a", [2])]⟩

/-- The failure of its handler. -/
def failure : Failure := { kind := "IoError", message := "down" }

/-- The record as a copy on the dead-letter topic. -/
def deadLetter : Record :=
  Broker.stored (Listener.copyFor ⟨main, 0, {}, .error⟩ record failure 1 stage.clock.wall deadLetters)
    0 stage.clock.wall

end Orders

open Orders in
/-- Main to dead letters, and dead letters to dead letters again: the delivery count is 1, then 2. -/
theorem hop_preserves_record_of_two_hops :
    ∃ again : Record, deadLetter.headers.carried.length = 9 ∧ deadLetter.headers.attempt.toNat = 1
      ∧ again.key = record.key ∧ again.value = record.value
      ∧ again.headers.carried = deadLetter.headers.carried
      ∧ again.headers.size = deadLetter.headers.size := by
  have first : Listener.Hop ⟨main, 0, {}, .error⟩ [⟨failure, stage.clock.wall⟩] record deadLetter :=
    Listener.Hop.of_first 0 _ rfl (by decide +kernel) (by decide) (by decide)
  have second : Listener.Hop ⟨deadLetters, 0, {}, .error⟩ [⟨failure, stage.clock.wall⟩] deadLetter
      (Broker.stored (Listener.copyFor ⟨deadLetters, 0, {}, .error⟩ deadLetter failure
        (Listener.firstAttempt ⟨deadLetters, 0, {}, .error⟩ deadLetter) stage.clock.wall
        deadLetters) 1 stage.clock.wall) :=
    Listener.Hop.of_first 1 _ rfl (by decide +kernel) (by decide) (by decide)
  obtain ⟨_, _, _, _, hcount, hlater⟩ := hop_preserves_record first (.cons second .nil)
  obtain ⟨hkey, hvalue, hcarried, hsize⟩ := hlater _ (List.mem_singleton_self _)
  exact ⟨_, by decide +kernel, hcount, hkey, hvalue, hcarried, hsize⟩

end Redelivery
