/-
  Redelivery.Headers
  ──────────────────
  **Ordered record headers.**

  A header list pairs keys with octet values.  Keys may repeat; a lookup
  gives the LAST value of its key.  `add` appends, `insert` replaces every
  value of the key by one at the end, `insertIfAbsent` leaves a present key
  alone.  The view of a header list is, for each key, the list of its values
  in order (`values`); every operation says what it does to that view.

  The names at the end are the contract between the hops of a record: what
  is written about the first failure, and the two headers that each hop
  sets anew.
-/
import Redelivery.Bytes

namespace Redelivery

/-- Headers in order; keys may repeat. -/
structure Headers where
  entries : List (String × Bytes) := []
  deriving DecidableEq, Repr, Inhabited

namespace Headers

/-! ## §1. Operations. -/

/-- Append a value, keeping those the key already has. -/
def add (h : Headers) (key : String) (value : Bytes) : Headers :=
  ⟨h.entries ++ [(key, value)]⟩

/-- Take away every value of the key. -/
def remove (h : Headers) (key : String) : Headers :=
  ⟨h.entries.filter fun e => e.1 != key⟩

/-- Replace every value of the key by a single one, placed last. -/
def insert (h : Headers) (key : String) (value : Bytes) : Headers :=
  (h.remove key).add key value

/-- Whether the key has a value. -/
def contains (h : Headers) (key : String) : Bool :=
  h.entries.any fun e => e.1 == key

/-- Append a value only if the key has none. -/
def insertIfAbsent (h : Headers) (key : String) (value : Bytes) : Headers :=
  if h.contains key then h else h.add key value

/-- The values of a key, in order. -/
def values (h : Headers) (key : String) : List Bytes :=
  (h.entries.filter fun e => e.1 == key).map Prod.snd

/-- The last value of a key. -/
def get? (h : Headers) (key : String) : Option Bytes :=
  (h.entries.reverse.find? fun e => e.1 == key).map Prod.snd

/-- The number of entries. -/
def size (h : Headers) : Nat := h.entries.length

/-- Whether there is no entry. -/
def isEmpty (h : Headers) : Bool := h.entries.isEmpty

/-! ## §2. Values with a meaning. -/

/-- The last value as text; none if it is not UTF-8. -/
def getText? (h : Headers) (key : String) : Option String :=
  (h.get? key).bind Bytes.toText?

/-- The last value as a signed 32-bit number; none unless it has four octets. -/
def getInt32? (h : Headers) (key : String) : Option Int32 :=
  (h.get? key).bind Bytes.toInt32?

/-- The last value as a signed 64-bit number; none unless it has eight octets. -/
def getInt64? (h : Headers) (key : String) : Option Int64 :=
  (h.get? key).bind Bytes.toInt64?

/-- Replace the key's values by a text. -/
def insertText (h : Headers) (key : String) (s : String) : Headers :=
  h.insert key (.ofText s)

/-- Replace the key's values by a signed 32-bit number. -/
def insertInt32 (h : Headers) (key : String) (v : Int32) : Headers :=
  h.insert key (.ofInt32 v)

/-- Replace the key's values by a signed 64-bit number. -/
def insertInt64 (h : Headers) (key : String) (v : Int64) : Headers :=
  h.insert key (.ofInt64 v)

/-! ## §3. The view: each operation on the values of a key. -/

theorem get?_eq_getLast? (h : Headers) (key : String) :
    h.get? key = (h.values key).getLast? := by
  rw [get?, values, ← List.head?_filter, List.filter_reverse, List.head?_reverse,
    List.getLast?_map]

theorem values_add (h : Headers) (key k : String) (value : Bytes) :
    (h.add key value).values k = h.values k ++ if key = k then [value] else [] := by
  by_cases hk : key = k <;> simp [add, values, List.filter_append, hk]

theorem values_remove (h : Headers) (key k : String) :
    (h.remove key).values k = if key = k then [] else h.values k := by
  by_cases hk : key = k
  · subst hk
    simp [remove, values, List.filter_filter]
  · have hf : ∀ e : String × Bytes, (e.1 == k && e.1 != key) = (e.1 == k) := by
      intro e
      by_cases he : e.1 = k
      · have hne : k ≠ key := fun h => hk h.symm
        simp [he, hne]
      · simp [he]
    simp [remove, values, List.filter_filter, hf, hk]

theorem contains_iff_values_ne_nil (h : Headers) (key : String) :
    h.contains key = true ↔ h.values key ≠ [] := by
  simp [contains, values, List.filter_eq_nil_iff]

/-! ## §4. The headers that travel with a redelivered record. -/

/-- Source topic the record was first consumed from. -/
def sourceTopic : String := "retry-topic"
/-- Failure kind captured at the first failure. -/
def failureKind : String := "exception-fqcn"
/-- Failure message captured at the first failure. -/
def failureMessage : String := "exception-message"
/-- Summary of the failure and its causes, captured at the first failure. -/
def failureSummary : String := "exception-stacktrace"
/-- Time of the first failure, epoch milliseconds (64 bit). -/
def firstFailureTime : String := "original-timestamp"
/-- Partition the record was first consumed from (32 bit). -/
def firstPartition : String := "original-partition"
/-- Offset the record was first consumed from (64 bit). -/
def firstOffset : String := "original-offset"
/-- Delivery count into the current topic (32 bit). -/
def attempts : String := "retry-topic-attempts"
/-- Earliest time the record may be handled, epoch milliseconds (64 bit). -/
def due : String := "retry-topic-backoff-due"

/-- The delivery count that the headers carry; 1 when absent, malformed or not positive. -/
def attempt (h : Headers) : UInt32 :=
  match h.getInt32? attempts with
  | some a => if 0 < a then a.toUInt32 else 1
  | none => 1

end Headers

end Redelivery
