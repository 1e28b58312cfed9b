/-
  Redelivery.Proofs.Conservation.Book
  ───────────────────────────────────
  **Keeping account of records and their copies.**

  A record is known by the place where it was accepted.  The book says whose
  copy lies at each place, how far each topic is dealt with, and how records
  ended.  There are three entries: a record is accepted, the next record of a
  topic is forwarded to another topic, or it ends there.  Whatever the order
  of entries, a record that was accepted has one copy that is still to be
  dealt with, or has ended once (`Balanced.of_entry`).

      accepted  =  one pending copy  |  one end
-/
import Mathlib.Logic.Relation
import Redelivery.Delivery.Listener
import Redelivery.Proofs.Bus.Logs

namespace Redelivery

/-- Whether a result of a delivery says that a copy was published. -/
def Outcome.isCopy : Outcome → Bool
  | .forwarded _ | .deadLettered _ => true
  | .processed | .dropped => false

/-- A place in the log of a topic. -/
structure Place where
  topic : String
  offset : Nat
  deriving DecidableEq, Repr

@[ext] structure Book where
  /-- Whose copy lies at each offset of a topic. -/
  copies : String → List Place
  /-- The first offset of a topic that is not dealt with. -/
  reached : String → Nat
  /-- How a record ended, each time that it did. -/
  ends : Place → List Outcome

namespace Book

/-! ## §1. Entries. -/

/-- A copy of the record `p` is put on a topic. -/
def add (b : Book) (topic : String) (p : Place) : Book :=
  { b with copies := fun t => b.copies t ++ if topic = t then [p] else [] }

/-- The next record of a topic is dealt with. -/
def pass (b : Book) (topic : String) : Book :=
  { b with reached := fun t => b.reached t + if topic = t then 1 else 0 }

/-- The record `p` ends. -/
def close (b : Book) (p : Place) (outcome : Outcome) : Book :=
  { b with ends := fun q => b.ends q ++ if p = q then [outcome] else [] }

/-- The place behind the last record of a topic. -/
def back (b : Book) (topic : String) : Place := ⟨topic, (b.copies topic).length⟩

/-- What can be entered into a book, with records forwarded only as `way` allows. -/
inductive Entry (way : String → String → Prop) (b : Book) : Book → Prop where
  | accepted (topic : String) : Entry way b (b.add topic (b.back topic))
  | forwarded {topic goal : String} {p : Place}
      (next : (b.copies topic)[b.reached topic]? = some p) (allowed : way topic goal) :
      Entry way b ((b.pass topic).add goal p)
  | ended {topic : String} {p : Place} (next : (b.copies topic)[b.reached topic]? = some p)
      {outcome : Outcome} (final : outcome.isCopy = false) :
      Entry way b ((b.pass topic).close p outcome)

/-- A copy of the record `p` lies at the place `q` and is still to be dealt with. -/
def Pending (b : Book) (p q : Place) : Prop :=
  (b.copies q.topic)[q.offset]? = some p ∧ b.reached q.topic ≤ q.offset

/-- The record `p` was accepted, at the place that it is known by. -/
def Accepted (b : Book) (p : Place) : Prop := (b.copies p.topic)[p.offset]? = some p

variable {b b' : Book} {topic : String} {p q : Place}

theorem getElem?_add (t : String) (k : Nat) {x : Place}
    (h : ((b.add topic p).copies t)[k]? = some x) :
    (b.copies t)[k]? = some x ∨ (Place.mk t k = b.back topic ∧ x = p) := by
  have h : (b.copies t ++ if topic = t then [p] else [])[k]? = some x := h
  by_cases htopic : topic = t
  · subst htopic
    rw [if_pos rfl] at h
    rcases getElem?_concat_cases h with ⟨rfl, rfl⟩ | ⟨_, hold⟩
    · exact Or.inr ⟨rfl, rfl⟩
    · exact Or.inl hold
  · rw [if_neg htopic, List.append_nil] at h
    exact Or.inl h

theorem getElem?_add_old (t : String) (k : Nat) {x : Place} (h : (b.copies t)[k]? = some x) :
    ((b.add topic p).copies t)[k]? = some x := by
  show (b.copies t ++ if topic = t then [p] else [])[k]? = some x
  rw [List.getElem?_append_left (List.getElem?_eq_some_iff.1 h).1]
  exact h

theorem getElem?_add_back : ((b.add topic p).copies topic)[(b.copies topic).length]? = some p := by
  show (b.copies topic ++ if topic = topic then [p] else [])[(b.copies topic).length]? = some p
  rw [if_pos rfl]
  exact List.getElem?_concat_length

/-- A topic is passed by one place. -/
theorem pending_pass : (b.pass topic).Pending p q
    ↔ b.Pending p q ∧ q ≠ ⟨topic, b.reached topic⟩ := by
  show (_ = _ ∧ b.reached q.topic + (if topic = q.topic then 1 else 0) ≤ q.offset) ↔ _
  by_cases htopic : topic = q.topic
  · subst htopic
    rw [if_pos rfl]
    constructor
    · rintro ⟨hcopy, hle⟩
      refine ⟨⟨hcopy, by omega⟩, fun heq => ?_⟩
      have hoffset := congrArg Place.offset heq
      simp only at hoffset
      omega
    · rintro ⟨⟨hcopy, hle⟩, hne⟩
      refine ⟨hcopy, ?_⟩
      have hoffset : q.offset ≠ b.reached q.topic := by
        intro heq
        apply hne
        rw [← heq]
      omega
  · rw [if_neg htopic]
    constructor
    · rintro hpending
      exact ⟨hpending, fun heq => htopic (congrArg Place.topic heq).symm⟩
    · rintro ⟨hpending, _⟩
      exact hpending

/-- A copy that is added is to be dealt with. -/
theorem pending_add (hwithin : b.reached topic ≤ (b.copies topic).length) {x : Place} :
    (b.add topic p).Pending x q ↔ b.Pending x q ∨ (q = b.back topic ∧ x = p) := by
  constructor
  · rintro ⟨hcopy, hle⟩
    rcases getElem?_add q.topic q.offset hcopy with hold | hnew
    · exact Or.inl ⟨hold, hle⟩
    · exact Or.inr hnew
  · rintro (⟨hcopy, hle⟩ | ⟨rfl, rfl⟩)
    · exact ⟨getElem?_add_old q.topic q.offset hcopy, hle⟩
    · exact ⟨getElem?_add_back, hwithin⟩

theorem Accepted.add (h : b.Accepted q) : (b.add topic p).Accepted q :=
  getElem?_add_old q.topic q.offset h

/-! ## §2. What becomes of one record. -/

/-- The record has one copy that is still to be dealt with, or it has ended once. -/
inductive Account (b : Book) (p : Place) : Prop where
  | pending {q : Place} (here : b.Pending p q) (only : ∀ q', b.Pending p q' → q' = q)
      (ends : b.ends p = [])
  | ended {outcome : Outcome} (none : ∀ q, ¬b.Pending p q) (ends : b.ends p = [outcome])
      (final : outcome.isCopy = false)

/-- A record is not touched by what becomes of others. -/
theorem Account.of_iff (h : b.Account p) (hpending : ∀ q, b'.Pending p q ↔ b.Pending p q)
    (hends : b'.ends p = b.ends p) : b'.Account p := by
  cases h with
  | pending here only ends =>
      exact .pending ((hpending _).2 here) (fun q' hq' => only q' ((hpending q').1 hq'))
        (hends.trans ends)
  | ended none ends final =>
      exact .ended (fun q hq => none q ((hpending q).1 hq)) (hends.trans ends) final

/-! ## §3. The books balance. -/

/-- What books always say, with every topic dealt with up to `first` at least. -/
structure Kept (first : String → Nat) (b : Book) : Prop where
  started : ∀ topic, first topic ≤ b.reached topic
  within : ∀ topic, b.reached topic ≤ (b.copies topic).length
  known : ∀ (topic : String) (k : Nat) (p : Place), (b.copies topic)[k]? = some p → b.Accepted p
  owed : ∀ p q, b.Pending p q → first p.topic ≤ p.offset
  unknown : ∀ p, ¬b.Accepted p → b.ends p = []

/-- Every record that was accepted behind `first` has its account. -/
structure Balanced (first : String → Nat) (b : Book) : Prop extends Kept first b where
  account : ∀ p, b.Accepted p → first p.topic ≤ p.offset → b.Account p

/-- The books balance but for the record `p`, which is nowhere. -/
structure Missing (first : String → Nat) (p : Place) (b : Book) : Prop extends Kept first b where
  others : ∀ x, x ≠ p → b.Accepted x → first x.topic ≤ x.offset → b.Account x
  due : first p.topic ≤ p.offset
  nowhere : ∀ q, ¬b.Pending p q
  ends : b.ends p = []

variable {first : String → Nat}

/-- A book of records that are their own only copies balances, before any has ended. -/
theorem Balanced.opening
    (hcopies : ∀ (topic : String) (k : Nat) (p : Place), (b.copies topic)[k]? = some p → p = ⟨topic, k⟩)
    (hwithin : ∀ topic, b.reached topic ≤ (b.copies topic).length) (hends : ∀ p, b.ends p = []) :
    b.Balanced b.reached where
  started := fun _ => Nat.le_refl _
  within := hwithin
  known := by
    intro topic k p hp
    cases hcopies topic k p hp
    exact hp
  owed := by
    rintro p q ⟨hp, hle⟩
    cases hcopies q.topic q.offset p hp
    exact hle
  unknown := fun p _ => hends p
  account := by
    intro p hp hdue
    refine .pending (q := p) ⟨hp, hdue⟩ ?_ (hends p)
    rintro q ⟨hq, _⟩
    cases hcopies q.topic q.offset p hq
    rfl

/-- A record that is about to be accepted is nowhere. -/
theorem Balanced.missing_back (h : b.Balanced first) (topic : String) :
    b.Missing first (b.back topic) := by
  have hfresh : ¬b.Accepted (b.back topic) := by
    intro haccepted
    have hlt := (List.getElem?_eq_some_iff.1 haccepted).1
    exact absurd hlt (Nat.lt_irrefl _)
  refine ⟨h.toKept, fun x _ => h.account x, ?_, ?_, h.unknown _ hfresh⟩
  · exact Nat.le_trans (h.started topic) (h.within topic)
  · exact fun q hq => hfresh (h.known q.topic q.offset _ hq.1)

/-- A record whose topic is passed is nowhere. -/
theorem Balanced.missing_pass (h : b.Balanced first)
    (next : (b.copies topic)[b.reached topic]? = some p) : (b.pass topic).Missing first p := by
  have hhere : b.Pending p ⟨topic, b.reached topic⟩ := ⟨next, Nat.le_refl _⟩
  have hdue := h.owed p _ hhere
  have hbefore : ∀ x q, (b.pass topic).Pending x q → b.Pending x q :=
    fun x q hq => (pending_pass.1 hq).1
  -- the record had one pending copy: passing it leaves none, and no other record has one there
  refine ⟨⟨?_, ?_, h.known, fun x q hq => h.owed x q (hbefore x q hq), h.unknown⟩, ?_, hdue, ?_, ?_⟩
  · exact fun t => Nat.le_add_right_of_le (h.started t)
  · intro t
    show b.reached t + (if topic = t then 1 else 0) ≤ (b.copies t).length
    have hwithin := h.within t
    by_cases htopic : topic = t
    · subst htopic
      rw [if_pos rfl]
      exact (List.getElem?_eq_some_iff.1 next).1
    · rw [if_neg htopic]
      exact hwithin
  · intro x hx haccepted hfirst
    refine (h.account x haccepted hfirst).of_iff (fun q => ⟨hbefore x q, fun hq => ?_⟩) rfl
    refine pending_pass.2 ⟨hq, fun heq => hx ?_⟩
    -- only the record `p` lies at the place that is passed
    subst heq
    exact Option.some.inj (hq.1.symm.trans next)
  · intro q hq
    obtain ⟨hpending, hne⟩ := pending_pass.1 hq
    cases h.account p (h.known topic _ p next) hdue with
    | pending _ only _ => exact hne ((only q hpending).trans (only _ hhere).symm)
    | ended none _ _ => exact none _ hhere
  · cases h.account p (h.known topic _ p next) hdue with
    | pending _ _ ends => exact ends
    | ended none _ _ => exact absurd hhere (none _)

/-- A missing record is put on a topic. -/
theorem Missing.add (h : b.Missing first p) (hp : b.Accepted p ∨ p = b.back topic) :
    (b.add topic p).Balanced first := by
  have hwithin := h.within topic
  have hback : (b.add topic p).Pending p (b.back topic) :=
    (pending_add hwithin).2 (Or.inr ⟨rfl, rfl⟩)
  have haccepted : (b.add topic p).Accepted p := by
    rcases hp with hold | hnew
    · exact hold.add
    · subst hnew
      exact hback.1
  -- the accounts of all others stay as they are
  have hother : ∀ x, x ≠ p → ∀ q, (b.add topic p).Pending x q ↔ b.Pending x q := by
    intro x hx q
    rw [pending_add hwithin]
    exact ⟨fun hor => hor.resolve_right fun hnew => hx hnew.2, Or.inl⟩
  refine ⟨⟨h.started, ?_, ?_, ?_, ?_⟩, ?_⟩
  · intro t
    show b.reached t ≤ (b.copies t ++ _).length
    rw [List.length_append]
    exact Nat.le_add_right_of_le (h.within t)
  · intro t k x hx
    rcases getElem?_add t k hx with hold | ⟨_, rfl⟩
    · exact (h.known t k x hold).add
    · exact haccepted
  · intro x q hx
    rcases (pending_add hwithin).1 hx with hold | ⟨_, rfl⟩
    · exact h.owed x q hold
    · exact h.due
  · exact fun x hx => h.unknown x fun hold => hx hold.add
  · intro x hx hfirst
    by_cases hxp : x = p
    · subst hxp
      refine .pending hback (fun q hq => ?_) h.ends
      rcases (pending_add hwithin).1 hq with hold | ⟨heq, _⟩
      · exact absurd hold (h.nowhere q)
      · exact heq
    · refine (h.others x hxp ?_ hfirst).of_iff (hother x hxp) rfl
      rcases getElem?_add x.topic x.offset hx with hold | ⟨_, heq⟩
      · exact hold
      · exact absurd heq hxp

/-- A missing record ends. -/
theorem Missing.close (h : b.Missing first p) (hp : b.Accepted p) {outcome : Outcome}
    (final : outcome.isCopy = false) : (b.close p outcome).Balanced first := by
  have hends : ∀ x, x ≠ p → (b.close p outcome).ends x = b.ends x := by
    intro x hx
    show b.ends x ++ (if p = x then [outcome] else []) = b.ends x
    rw [if_neg fun heq => hx heq.symm, List.append_nil]
  refine ⟨⟨h.started, h.within, h.known, h.owed, ?_⟩, ?_⟩
  · intro x hx
    have hxp : x ≠ p := fun heq => hx (heq ▸ hp)
    rw [hends x hxp]
    exact h.unknown x hx
  · intro x hx hfirst
    by_cases hxp : x = p
    · subst hxp
      refine .ended h.nowhere ?_ final
      show b.ends x ++ (if x = x then [outcome] else []) = [outcome]
      rw [h.ends, if_pos rfl, List.nil_append]
    · exact (h.others x hxp hx hfirst).of_iff (fun _ => Iff.rfl) (hends x hxp)

variable {way : String → String → Prop}

/-- **Every entry keeps the books balanced.** -/
theorem Balanced.of_entry (h : b.Balanced first) (entry : b.Entry way b') :
    b'.Balanced first := by
  -- each entry takes one record off the books, and puts it back or ends it
  cases entry with
  | accepted topic => exact (h.missing_back topic).add (Or.inr rfl)
  | forwarded next allowed => exact (h.missing_pass next).add (Or.inl (h.known _ _ _ next))
  | ended next final => exact (h.missing_pass next).close (h.known _ _ _ next) final

/-! ## §4. Where copies get to. -/

/-- Every copy came to its topic from the place where its record was accepted. -/
def Traced (way : String → String → Prop) (b : Book) : Prop :=
  ∀ (topic : String) (k : Nat) (p : Place), (b.copies topic)[k]? = some p →
    Relation.ReflTransGen way p.topic topic

theorem Traced.opening
    (hcopies : ∀ (topic : String) (k : Nat) (p : Place), (b.copies topic)[k]? = some p → p = ⟨topic, k⟩)
    (way : String → String → Prop) : b.Traced way := by
  intro topic k p hp
  cases hcopies topic k p hp
  exact .refl

theorem Traced.of_entry (h : b.Traced way) (entry : b.Entry way b') : b'.Traced way := by
  -- only the copy at the back of its topic is new
  cases entry with
  | accepted topic =>
      intro t k p hp
      rcases getElem?_add t k hp with hold | ⟨hback, rfl⟩
      · exact h t k p hold
      · cases hback
        exact .refl
  | forwarded next allowed =>
      intro t k p hp
      rcases getElem?_add t k hp with hold | ⟨hback, rfl⟩
      · exact h t k p hold
      · cases hback
        exact (h _ _ _ next).tail allowed
  | ended next final => exact h

end Book

end Redelivery
