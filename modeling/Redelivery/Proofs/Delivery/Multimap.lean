/-
  Redelivery.Proofs.Delivery.Multimap
  ───────────────────────────────────
  **Headers are an ordered multimap.**

  A header list stands for a list of values under each key.  Every change
  touches the list of one key, and every question is answered from the lists,
  so after any changes from any headers:

      values after the changes = the changes, on the lists of values
      entries of all other keys, in order = as they were

  A number or a text that is put in is read back; a number is read only from a
  value of exactly its width.
-/
import Mathlib.Algebra.BigOperators.Group.Finset.Basic
import Mathlib.Logic.Function.Basic
import Redelivery.Proofs.Delivery.Headers

namespace Redelivery

namespace Headers

/-! ## §1. Changes, on entries and on lists of values. -/

/-- A call that changes headers. -/
inductive Change where
  | add (key : String) (value : Bytes)
  | insert (key : String) (value : Bytes)
  | insertIfAbsent (key : String) (value : Bytes)
  | remove (key : String)
  | insertText (key text : String)
  | insertInt32 (key : String) (v : Int32)
  | insertInt64 (key : String) (v : Int64)
  deriving DecidableEq, Repr

namespace Change

/-- The key that is changed. -/
def key : Change → String
  | .add key _ | .insert key _ | .insertIfAbsent key _ | .remove key | .insertText key _
  | .insertInt32 key _ | .insertInt64 key _ => key

/-- What becomes of the values of the key. -/
def onValues : Change → List Bytes → List Bytes
  | .add _ value, values => values ++ [value]
  | .insert _ value, _ => [value]
  | .insertIfAbsent _ value, [] => [value]
  | .insertIfAbsent _ _, first :: rest => first :: rest
  | .remove _, _ => []
  | .insertText _ text, _ => [.ofText text]
  | .insertInt32 _ v, _ => [.ofInt32 v]
  | .insertInt64 _ v, _ => [.ofInt64 v]

end Change

/-- The headers after a change. -/
def after (h : Headers) : Change → Headers
  | .add key value => h.add key value
  | .insert key value => h.insert key value
  | .insertIfAbsent key value => h.insertIfAbsent key value
  | .remove key => h.remove key
  | .insertText key text => h.insertText key text
  | .insertInt32 key v => h.insertInt32 key v
  | .insertInt64 key v => h.insertInt64 key v

/-- The headers after some changes. -/
def afterAll (h : Headers) (changes : List Change) : Headers := changes.foldl after h

/-- A list of values for each key. -/
abbrev ValueLists := String → List Bytes

/-- A change of lists of values: that of its key, and no other. -/
def ValueLists.after (m : ValueLists) (change : Change) : ValueLists :=
  Function.update m change.key (change.onValues (m change.key))

/-! ## §2. One change. -/

section Values

variable (h : Headers) (key : String)

theorem values_add_eq (value : Bytes) :
    (h.add key value).values = Function.update h.values key (h.values key ++ [value]) := by
  funext k
  rw [values_add]
  by_cases hk : k = key
  · subst hk
    simp
  · have hother : key ≠ k := fun heq => hk heq.symm
    simp [hother, Function.update_of_ne hk]

theorem values_remove_eq : (h.remove key).values = Function.update h.values key [] := by
  funext k
  rw [values_remove]
  by_cases hk : k = key
  · subst hk
    simp
  · have hother : key ≠ k := fun heq => hk heq.symm
    simp [hother, Function.update_of_ne hk]

/-- Inserting leaves one value. -/
theorem values_insert_eq (value : Bytes) :
    (h.insert key value).values = Function.update h.values key [value] := by
  rw [insert, values_add_eq, values_remove_eq]
  simp

end Values

/-- **What a change does to the lists of values.** -/
theorem values_after (h : Headers) (change : Change) :
    (h.after change).values = ValueLists.after h.values change := by
  cases change with
  | add key value => exact h.values_add_eq key value
  | insert key value => exact h.values_insert_eq key value
  | insertIfAbsent key value =>
      show (h.insertIfAbsent key value).values
        = Function.update h.values key ((Change.insertIfAbsent key value).onValues (h.values key))
      have hcontains := h.contains_iff_values_ne_nil key
      cases hvalues : h.values key with
      | nil =>
          have habsent : h.contains key = false := by
            rw [← Bool.not_eq_true, hcontains, hvalues]
            simp
          rw [insertIfAbsent_of_not_contains value habsent, values_add_eq, hvalues]
          rfl
      | cons first rest =>
          have hpresent : h.contains key = true := by
            rw [hcontains, hvalues]
            simp
          rw [insertIfAbsent_of_contains value hpresent]
          show h.values = Function.update h.values key (first :: rest)
          rw [← hvalues, Function.update_eq_self]
  | remove key => exact h.values_remove_eq key
  | insertText key text => exact h.values_insert_eq key _
  | insertInt32 key v => exact h.values_insert_eq key _
  | insertInt64 key v => exact h.values_insert_eq key _

section Others

variable (h : Headers) {keep : String → Bool} {key : String} (hkeep : keep key = false)
include hkeep

theorem filter_add (value : Bytes) :
    (h.add key value).entries.filter (fun e => keep e.1) = h.entries.filter fun e => keep e.1 := by
  simp [add, List.filter_append, hkeep]

theorem filter_remove :
    (h.remove key).entries.filter (fun e => keep e.1) = h.entries.filter fun e => keep e.1 := by
  unfold remove
  rw [List.filter_filter]
  apply List.filter_congr
  intro e _
  -- what is kept has another key
  by_cases he : e.1 = key
  · rw [he, hkeep]
    rfl
  · simp [he]

theorem filter_insert (value : Bytes) :
    (h.insert key value).entries.filter (fun e => keep e.1)
      = h.entries.filter fun e => keep e.1 := by
  rw [insert, filter_add _ hkeep, filter_remove _ hkeep]

end Others

/-- **A change leaves the entries of all other keys**, with their order. -/
theorem filter_after (h : Headers) (change : Change) {keep : String → Bool}
    (hkeep : keep change.key = false) :
    (h.after change).entries.filter (fun e => keep e.1)
      = h.entries.filter fun e => keep e.1 := by
  cases change with
  | add key value => exact h.filter_add hkeep value
  | insert key value => exact h.filter_insert hkeep value
  | insertIfAbsent key value =>
      show (h.insertIfAbsent key value).entries.filter _ = _
      cases hcontains : h.contains key with
      | true => rw [insertIfAbsent_of_contains value hcontains]
      | false =>
          rw [insertIfAbsent_of_not_contains value hcontains]
          exact h.filter_add hkeep value
  | remove key => exact h.filter_remove hkeep
  | insertText key text => exact h.filter_insert hkeep _
  | insertInt32 key v => exact h.filter_insert hkeep _
  | insertInt64 key v => exact h.filter_insert hkeep _

/-! ## §3. Some changes. -/

/-- **The lists of values after some changes** are those before, changed in the same way. -/
theorem values_afterAll (h : Headers) (changes : List Change) :
    (h.afterAll changes).values = changes.foldl ValueLists.after h.values := by
  unfold afterAll
  induction changes generalizing h with
  | nil => rfl
  | cons change rest ih => rw [List.foldl_cons, ih, values_after, List.foldl_cons]

theorem filter_afterAll (h : Headers) {changes : List Change} {keep : String → Bool}
    (hkeep : ∀ change ∈ changes, keep change.key = false) :
    (h.afterAll changes).entries.filter (fun e => keep e.1)
      = h.entries.filter fun e => keep e.1 := by
  unfold afterAll
  induction changes generalizing h with
  | nil => rfl
  | cons change rest ih =>
      have hrest : ∀ later ∈ rest, keep later.key = false :=
        fun later hlater => hkeep later (List.mem_cons_of_mem change hlater)
      rw [List.foldl_cons, ih (h.after change) hrest]
      exact h.filter_after change (hkeep change List.mem_cons_self)

/-! ## §4. Questions. -/

theorem length_values (h : Headers) (key : String) :
    (h.values key).length = (h.entries.map Prod.fst).count key := by
  rw [values, List.length_map, List.count_eq_countP, List.countP_map, List.countP_eq_length_filter]
  rfl

/-- **The number of entries** is that of the values of all keys. -/
theorem size_eq_sum (h : Headers) {keys : Finset String}
    (hkeys : ∀ key, h.values key ≠ [] → key ∈ keys) :
    h.size = ∑ key ∈ keys, (h.values key).length := by
  have hmem : ∀ key ∈ (h.entries.map Prod.fst : Multiset String), key ∈ keys := by
    intro key hkey
    apply hkeys
    rw [← List.length_pos_iff, length_values]
    exact List.count_pos_iff.2 (Multiset.mem_coe.1 hkey)
  calc h.size
      = Multiset.card (h.entries.map Prod.fst : Multiset String) := by simp [size]
    _ = ∑ key ∈ keys, Multiset.count key (h.entries.map Prod.fst : Multiset String) :=
        (Multiset.sum_count_eq_card hmem).symm
    _ = ∑ key ∈ keys, (h.values key).length :=
        Finset.sum_congr rfl fun key _ => by rw [Multiset.coe_count, length_values]

theorem isEmpty_iff (h : Headers) : h.isEmpty = true ↔ ∀ key, h.values key = [] := by
  unfold isEmpty values
  cases h.entries with
  | nil => simp
  | cons e rest =>
      simp only [List.isEmpty_cons, Bool.false_eq_true, false_iff, not_forall]
      exact ⟨e.1, by simp⟩

/-- The questions are answered from lists of values. -/
structure Answers (h : Headers) (m : ValueLists) : Prop where
  get : ∀ key, h.get? key = (m key).getLast?
  contains : ∀ key, h.contains key = true ↔ m key ≠ []
  isEmpty : h.isEmpty = true ↔ ∀ key, m key = []
  size : ∀ keys : Finset String, (∀ key, m key ≠ [] → key ∈ keys) →
    h.size = ∑ key ∈ keys, (m key).length

theorem answers (h : Headers) : h.Answers h.values where
  get := h.get?_eq_getLast?
  contains := h.contains_iff_values_ne_nil
  isEmpty := h.isEmpty_iff
  size := fun _ hkeys => h.size_eq_sum hkeys

/-- What was inserted is found. -/
theorem get?_insert (h : Headers) (key : String) (value : Bytes) :
    (h.insert key value).get? key = some value := by
  rw [get?_eq_getLast?, values_insert_eq]
  simp

/-- A 32-bit number is read from four octets and from nothing else. -/
theorem getInt32?_eq_none_iff (h : Headers) (key : String) :
    h.getInt32? key = none ↔ ∀ b, h.get? key = some b → b.length ≠ 4 := by
  unfold getInt32?
  cases h.get? key <;> simp [Bytes.toInt32?]

/-- A 64-bit number is read from eight octets and from nothing else. -/
theorem getInt64?_eq_none_iff (h : Headers) (key : String) :
    h.getInt64? key = none ↔ ∀ b, h.get? key = some b → b.length ≠ 8 := by
  unfold getInt64?
  cases h.get? key <;> simp [Bytes.toInt64?]

/-! ## §5. Everything about headers that were changed. -/

/-- **Headers are an ordered multimap.**  After any changes from any headers, the values of every key
are those that the changes make of the values before, and all questions are answered from them: a key
has its last value, it is present if it has one, and the size counts all.  Entries of keys that are
not changed stay, in their order.  Inserting leaves one entry of the key, at the end; inserting where
the key is present does nothing.  What is written as a number or a text is read back, and numbers are
read from values of exactly their width. -/
theorem headers_are_ordered_multimap (h : Headers) (changes : List Change) :
    (h.afterAll changes).values = changes.foldl ValueLists.after h.values
    ∧ (h.afterAll changes).Answers (changes.foldl ValueLists.after h.values)
    ∧ (∀ keep : String → Bool, (∀ change ∈ changes, keep change.key = false) →
        (h.afterAll changes).entries.filter (fun e => keep e.1)
          = h.entries.filter fun e => keep e.1)
    ∧ (∀ change, ((h.afterAll changes).after change).entries.filter (fun e => e.1 != change.key)
        = (h.afterAll changes).entries.filter fun e => e.1 != change.key)
    ∧ (∀ key value, ∃ others, ((h.afterAll changes).insert key value).entries
          = others ++ [(key, value)] ∧ ∀ e ∈ others, e.1 ≠ key)
    ∧ (∀ key value, (h.afterAll changes).contains key = true →
        (h.afterAll changes).insertIfAbsent key value = h.afterAll changes)
    ∧ (∀ key v, ((h.afterAll changes).insertInt32 key v).getInt32? key = some v)
    ∧ (∀ key v, ((h.afterAll changes).insertInt64 key v).getInt64? key = some v)
    ∧ (∀ key text, ((h.afterAll changes).insertText key text).getText? key = some text)
    ∧ (∀ key, (h.afterAll changes).getInt32? key = none
        ↔ ∀ b, (h.afterAll changes).get? key = some b → b.length ≠ 4)
    ∧ ∀ key, (h.afterAll changes).getInt64? key = none
        ↔ ∀ b, (h.afterAll changes).get? key = some b → b.length ≠ 8 := by
  refine ⟨h.values_afterAll changes, ?_, fun keep hkeep => h.filter_afterAll hkeep,
    fun change => ?_, fun key value => ?_, fun key value hpresent => ?_, fun key v => ?_,
    fun key v => ?_, fun key text => ?_, getInt32?_eq_none_iff _, getInt64?_eq_none_iff _⟩
  · rw [← values_afterAll]
    exact answers _
  · exact @filter_after _ change (· != change.key) (bne_self_eq_false change.key)
  · refine ⟨(h.afterAll changes).entries.filter fun e => e.1 != key, rfl, fun e he => ?_⟩
    exact bne_iff_ne.1 (List.mem_filter.1 he).2
  · exact insertIfAbsent_of_contains value hpresent
  · rw [getInt32?, insertInt32, get?_insert]
    exact Bytes.toInt32?_ofInt32 v
  · rw [getInt64?, insertInt64, get?_insert]
    exact Bytes.toInt64?_ofInt64 v
  · rw [getText?, insertText, get?_insert]
    exact Bytes.toText?_ofText text

/-- Two values under one key, and a third one under another. -/
def repeated : Headers := ⟨[("a", [1]), ("b", [2]), ("a", [3])]⟩

/-- An insertion where the key is present, and a number. -/
def twoChanges : List Change := [.insertIfAbsent "a" [9], .insertInt32 "n" (-2)]

/-- The last value of the repeated key is still the same, and so is the entry of the key that is not
mentioned. -/
theorem headers_are_ordered_multimap_of_repeated :
    (repeated.afterAll twoChanges).get? "a" = some [3]
    ∧ (repeated.afterAll twoChanges).entries.filter (fun e => e.1 == "b") = [("b", [2])]
    ∧ (repeated.afterAll twoChanges).insertIfAbsent "a" [7] = repeated.afterAll twoChanges := by
  obtain ⟨_, hanswers, hkept, _, _, hpresent, _⟩ := headers_are_ordered_multimap repeated twoChanges
  refine ⟨(hanswers.get "a").trans (by decide), ?_, hpresent "a" [7] (by decide)⟩
  exact (hkept (· == "b") (by decide)).trans (by decide)

end Headers

end Redelivery
