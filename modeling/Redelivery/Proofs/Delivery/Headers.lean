/-
  Redelivery.Proofs.Delivery.Headers
  ──────────────────────────────────
  **What a published copy carries.**

  A copy keeps the entries of the record in order, but for the delivery count
  and the due time; after them come those of the seven entries about the first
  failure whose keys the record lacks, then one delivery count and one due
  time.  The main equation:

      (outgoing …).headers.entries = carried r ++ missing r ++ [attempts, due]
-/
import Redelivery.Delivery.Listener

namespace Redelivery

namespace Headers

/-! ## §1. Adding several entries where they are absent. -/

/-- Whether every hop sets the key anew. -/
def isRenewed (key : String) : Bool := key == attempts || key == due

/-- The entries that a hop passes on: all but delivery counts and due times. -/
def carried (h : Headers) : List (String × Bytes) := h.entries.filter fun e => !isRenewed e.1

/-- Those of some entries whose keys the headers lack. -/
def missing (h : Headers) (l : List (String × Bytes)) : List (String × Bytes) :=
  l.filter fun e => !h.contains e.1

/-- Add several entries, each only if its key has no value. -/
def insertAllIfAbsent (h : Headers) (l : List (String × Bytes)) : Headers :=
  l.foldl (fun h e => h.insertIfAbsent e.1 e.2) h

theorem contains_add (h : Headers) (key k : String) (value : Bytes) :
    (h.add key value).contains k = (h.contains k || key == k) := by
  simp [add, contains]

/-- A key that is there keeps its values. -/
theorem insertIfAbsent_of_contains {h : Headers} {key : String} (value : Bytes)
    (hc : h.contains key = true) : h.insertIfAbsent key value = h := by
  rw [insertIfAbsent, if_pos hc]

/-- A key that is not there is added. -/
theorem insertIfAbsent_of_not_contains {h : Headers} {key : String} (value : Bytes)
    (hc : h.contains key = false) : h.insertIfAbsent key value = h.add key value := by
  rw [insertIfAbsent, hc]
  rfl

/-- What is missing does not depend on other keys. -/
theorem missing_add {h : Headers} {key : String} (value : Bytes) {l : List (String × Bytes)}
    (hkey : key ∉ l.map Prod.fst) : (h.add key value).missing l = h.missing l := by
  apply List.filter_congr
  intro e he
  have hne : key ≠ e.1 := fun heq => hkey (heq ▸ List.mem_map_of_mem he)
  rw [contains_add, beq_false_of_ne hne, Bool.or_false]

/-- **Entries of distinct keys go to the end, those that are present left out.** -/
theorem entries_insertAllIfAbsent {l : List (String × Bytes)} (hl : (l.map Prod.fst).Nodup)
    (h : Headers) : (h.insertAllIfAbsent l).entries = h.entries ++ h.missing l := by
  induction l generalizing h with
  | nil => exact (List.append_nil _).symm
  | cons e l ih =>
      rw [List.map_cons, List.nodup_cons] at hl
      show ((h.insertIfAbsent e.1 e.2).insertAllIfAbsent l).entries = _
      rw [ih hl.2]
      cases hc : h.contains e.1 with
      | true =>
          rw [insertIfAbsent_of_contains e.2 hc]
          simp [missing, hc]
      | false =>
          rw [insertIfAbsent_of_not_contains e.2 hc, missing_add e.2 hl.1]
          simp [missing, hc, add]

/-! ## §2. Setting the delivery count and the due time. -/

/-- A value that is set replaces all values of its key. -/
theorem entries_insert (h : Headers) (key : String) (value : Bytes) :
    (h.insert key value).entries = (h.entries.filter fun e => e.1 != key) ++ [(key, value)] := rfl

/-- **Setting both renewed keys leaves one value of each, at the end.** -/
theorem entries_renew (h : Headers) (count : Int32) (time : Int64) :
    ((h.insertInt32 attempts count).insertInt64 due time).entries
      = h.carried ++ [(attempts, .ofInt32 count), (due, .ofInt64 time)] := by
  have hne : (attempts != due) = true := by decide
  have hkeys : (fun e : String × Bytes => e.1 != due && e.1 != attempts)
      = fun e => !isRenewed e.1 := by
    funext e
    rw [isRenewed, Bool.not_or, Bool.and_comm]
    rfl
  rw [insertInt64, insertInt32, entries_insert, entries_insert, List.filter_append,
    List.filter_filter, hkeys, carried]
  simp [hne]

/-! ## §3. Reading a key among entries. -/

/-- The values of a key among some entries, in order. -/
def valuesIn (l : List (String × Bytes)) (key : String) : List Bytes :=
  (l.filter fun e => e.1 == key).map Prod.snd

theorem valuesIn_append (l₁ l₂ : List (String × Bytes)) (key : String) :
    valuesIn (l₁ ++ l₂) key = valuesIn l₁ key ++ valuesIn l₂ key := by
  rw [valuesIn, List.filter_append, List.map_append]
  rfl

/-- A filter on keys keeps either all values of a key or none. -/
theorem valuesIn_filter (p : String → Bool) (l : List (String × Bytes)) (key : String) :
    valuesIn (l.filter fun e => p e.1) key = if p key then valuesIn l key else [] := by
  have hkey : ∀ e : String × Bytes, (e.1 == key && p e.1) = (e.1 == key && p key) := by
    intro e
    by_cases he : e.1 = key
    · rw [he]
    · rw [beq_false_of_ne he]
      rfl
  rw [valuesIn, List.filter_filter]
  simp only [hkey]
  cases p key with
  | true => simp [valuesIn]
  | false => simp

/-- What is renewed is not carried, and everything else is. -/
theorem valuesIn_carried (h : Headers) (key : String) :
    valuesIn h.carried key = if isRenewed key then [] else h.values key := by
  rw [carried, valuesIn_filter (fun k => !isRenewed k)]
  cases isRenewed key <;> rfl

/-- A key that is there misses nothing. -/
theorem valuesIn_missing (h : Headers) (l : List (String × Bytes)) (key : String) :
    valuesIn (h.missing l) key = if h.contains key then [] else valuesIn l key := by
  rw [missing, valuesIn_filter (fun k => !h.contains k)]
  cases h.contains key <;> rfl

end Headers

/-! ## §4. The headers of a copy. -/

namespace Listener

open Headers

/-- What a copy says about the first failure, by key. -/
def firstFailureEntries (l : Listener) (r : Record) (f : Failure) (now : Int64) :
    List (String × Bytes) :=
  [(sourceTopic, .ofText l.node.source), (failureKind, .ofText f.kind),
    (failureMessage, .ofText f.message), (failureSummary, .ofText f.summary),
    (firstFailureTime, .ofInt64 now), (firstPartition, .ofInt32 r.partition),
    (firstOffset, .ofInt64 r.offset)]

/-- The keys about the first failure. -/
def firstFailureKeys : List String :=
  [sourceTopic, failureKind, failureMessage, failureSummary, firstFailureTime, firstPartition,
    firstOffset]

theorem map_fst_firstFailureEntries (l : Listener) (r : Record) (f : Failure) (now : Int64) :
    (l.firstFailureEntries r f now).map Prod.fst = firstFailureKeys := rfl

theorem nodup_firstFailureKeys : firstFailureKeys.Nodup := by decide

/-- The description of the first failure is never renewed. -/
theorem not_isRenewed_of_mem {key : String} (hkey : key ∈ firstFailureKeys) :
    isRenewed key = false := by
  have hall : ∀ k ∈ firstFailureKeys, isRenewed k = false := by decide
  exact hall key hkey

/-- The first failure is described by headers that are added if absent. -/
theorem describeFirstFailure_eq (l : Listener) (r : Record) (f : Failure) (now : Int64) :
    l.describeFirstFailure r f now
      = r.headers.insertAllIfAbsent (l.firstFailureEntries r f now) := by
  simp only [describeFirstFailure, insertAllIfAbsent, firstFailureEntries, List.foldl_cons,
    List.foldl_nil]

/-- **The entries of a copy.** -/
theorem entries_outgoing (l : Listener) (r : Record) (f : Failure) (next : Destination)
    (n : UInt32) (now : Int64) :
    (l.outgoing r f next n now).headers.entries
      = r.headers.carried ++ r.headers.missing (l.firstFailureEntries r f now)
        ++ [(attempts, .ofInt32 (writtenAttempt n)), (due, .ofInt64 (dueTime now next.delay))] := by
  have hkeys : ((l.firstFailureEntries r f now).map Prod.fst).Nodup := nodup_firstFailureKeys
  have hmissing : (r.headers.missing (l.firstFailureEntries r f now)).filter
      (fun e => !isRenewed e.1) = r.headers.missing (l.firstFailureEntries r f now) := by
    rw [List.filter_eq_self]
    intro e he
    have hmem : e.1 ∈ firstFailureKeys := List.mem_map_of_mem (List.mem_filter.1 he).1
    rw [not_isRenewed_of_mem hmem]
    rfl
  show ((l.describeFirstFailure r f now).insertInt32 attempts (writtenAttempt n)
    |>.insertInt64 due (dueTime now next.delay)).entries = _
  rw [entries_renew, carried, describeFirstFailure_eq, entries_insertAllIfAbsent hkeys,
    List.filter_append, hmissing]
  rfl

end Listener

end Redelivery
