/-
  Redelivery.Proofs.Bus.Creation
  ──────────────────────────────
  **What creating the missing ones among some topics does.**

  Topics that exist keep their logs, and every other one gets an empty log
  with the layout of the first request for it:

      log? name after  =  log? name before, or else the first request's

  Retries change nothing about that: a call that is made to fail does
  nothing, and one that fails by itself would fail again.
-/
import Redelivery.Bus.Admin
import Redelivery.Proofs.Bus.Logs

namespace Redelivery

/-- The log of a topic that was just created. -/
def TopicRequest.log (r : TopicRequest) : TopicLog := { name := r.name, layout := r.layout }

namespace Broker

variable {b : Broker} {requests : List TopicRequest}

/-! ## §1. Creating missing topics. -/

/-- **Creating a topic adds its log if there is none.** -/
theorem log?_createTopic (b : Broker) (name : String) (layout : Layout) (topic : String) :
    (b.createTopic name layout).log? topic
      = (b.log? topic).or (if name = topic then some { name, layout } else none) := by
  cases h : b.hasTopic name with
  | true =>
      obtain ⟨log, hlog⟩ := (hasTopic_iff_log? name).1 h
      rw [createTopic_of_hasTopic layout h]
      by_cases hname : name = topic
      · rw [← hname, hlog]
        rfl
      · rw [if_neg hname, Option.or_none]
  | false =>
      unfold log?
      rw [topics_createTopic layout h, List.find?_append]
      congr 1
      by_cases hname : name = topic
      · simp [hname]
      · simp [hname]

/-- Creating topics fails exactly if one of them is to have no partition. -/
theorem createIfAbsent_ok_iff (requests : List TopicRequest) : ∀ b : Broker,
    (b.createIfAbsent requests).1 = .ok () ↔ ∀ r ∈ requests, ¬r.layout.partitions < 1 := by
  induction requests with
  | nil => exact fun b => ⟨fun _ r hr => absurd hr List.not_mem_nil, fun _ => rfl⟩
  | cons r rest ih =>
      intro b
      unfold createIfAbsent
      by_cases hr : r.layout.partitions < 1
      · rw [if_pos hr]
        exact ⟨fun h => (by cases h), fun h => absurd hr (h r List.mem_cons_self)⟩
      · rw [if_neg hr, ih, List.forall_mem_cons]
        exact ⟨fun h => ⟨hr, h⟩, fun h => h.2⟩

/-- **Creating missing topics**: a topic keeps its log, or gets that of the first request for it. -/
theorem log?_createIfAbsent (requests : List TopicRequest) : ∀ b : Broker,
    (b.createIfAbsent requests).1 = .ok () → ∀ topic,
    (b.createIfAbsent requests).2.log? topic
      = (b.log? topic).or ((requests.find? fun r => r.name == topic).map TopicRequest.log) := by
  induction requests with
  | nil => exact fun b _ topic => (Option.or_none).symm
  | cons r rest ih =>
      intro b hok topic
      unfold createIfAbsent at hok ⊢
      by_cases hr : r.layout.partitions < 1
      · rw [if_pos hr] at hok
        cases hok
      · rw [if_neg hr] at hok ⊢
        rw [ih _ hok topic, log?_createTopic, Option.or_assoc, List.find?_cons]
        congr 1
        by_cases hname : r.name = topic
        · rw [if_pos hname, beq_iff_eq.2 hname, Option.some_or]
          rfl
        · rw [if_neg hname, beq_false_of_ne hname, Option.none_or]

/-- Where all topics exist there is nothing to create. -/
theorem createIfAbsent_of_hasTopic (requests : List TopicRequest)
    (hok : ∀ r ∈ requests, ¬r.layout.partitions < 1)
    (hall : ∀ r ∈ requests, b.hasTopic r.name = true) :
    b.createIfAbsent requests = (.ok (), b) := by
  induction requests with
  | nil => rfl
  | cons r rest ih =>
      unfold createIfAbsent
      rw [if_neg (hok r List.mem_cons_self),
        createTopic_of_hasTopic r.layout (hall r List.mem_cons_self)]
      exact ih (fun r' hr' => hok r' (List.mem_cons_of_mem r hr'))
        fun r' hr' => hall r' (List.mem_cons_of_mem r hr')

theorem hasTopic_iff_of_log? {b' : Broker} {extra : Option TopicLog} {topic : String}
    (h : b'.log? topic = (b.log? topic).or extra) :
    b'.hasTopic topic = true ↔ b.hasTopic topic = true ∨ extra.isSome = true := by
  rw [hasTopic_iff_log?, hasTopic_iff_log?, ← Option.isSome_iff_exists, ← Option.isSome_iff_exists,
    h, Option.isSome_or, Bool.or_eq_true]

end Broker

/-! ## §2. The administration. -/

namespace Admin

variable {a a' : Admin} {b : Broker} {requests : List TopicRequest}

/-- **An answer about a topic is its layout**, and no further failure is due. -/
theorem of_describeRetrying {name : String} {layout : Option Layout} (retries : Nat) :
    ∀ {a : Admin}, a.describeRetrying b name retries = (.ok layout, a') →
      layout = b.layout? name ∧ a'.describeFailures = 0 := by
  have hone : ∀ {a : Admin}, a.describe b name = (.ok layout, a') →
      layout = b.layout? name ∧ a'.describeFailures = 0 := by
    intro a h
    unfold describe at h
    by_cases hfails : 0 < a.describeFailures
    · simp only [if_pos hfails] at h
      cases h
    · simp only [if_neg hfails] at h
      cases h
      exact ⟨rfl, Nat.eq_zero_of_not_pos hfails⟩
  induction retries with
  | zero => exact hone
  | succ retries ih =>
      intro a h
      unfold describeRetrying at h
      split at h
      · exact ih h
      · exact hone h

/-- Without failures every topic is described at once. -/
theorem describeRetrying_of_no_failure (h : a.describeFailures = 0) (name : String)
    (retries : Nat) :
    a.describeRetrying b name retries
      = (.ok (b.layout? name), { a with describeCalls := a.describeCalls + 1 }) := by
  have hone : a.describe b name
      = (.ok (b.layout? name), { a with describeCalls := a.describeCalls + 1 }) := by
    unfold describe
    rw [h]
    rfl
  cases retries with
  | zero => exact hone
  | succ retries =>
      unfold describeRetrying
      rw [hone]

/-- A call that is made to fail creates nothing; every other call answers as the broker does. -/
theorem create_eq (a : Admin) (b : Broker) (requests : List TopicRequest) :
    (∃ e a', a.create b requests = (.error e, a', b) ∧ a'.describeFailures = a.describeFailures)
      ∨ ∃ a', a.create b requests
          = ((b.createIfAbsent requests).1, a', (b.createIfAbsent requests).2)
        ∧ a'.createFailures = 0 ∧ a'.describeFailures = a.describeFailures := by
  unfold create
  by_cases hfails : 0 < a.createFailures
  · simp only [if_pos hfails]
    exact Or.inl ⟨_, _, rfl, rfl⟩
  · simp only [if_neg hfails]
    exact Or.inr ⟨_, rfl, Nat.eq_zero_of_not_pos hfails, rfl⟩

/-- **Topics that were created in the end were created by one call**, and no further failure is
due. -/
theorem of_createRetrying {b' : Broker} (retries : Nat) : ∀ {a : Admin} {b : Broker},
    a.createRetrying b requests retries = (.ok (), a', b') →
      b.createIfAbsent requests = (.ok (), b')
        ∧ a'.createFailures = 0 ∧ a'.describeFailures = a.describeFailures := by
  have hone : ∀ {a : Admin} {b : Broker}, a.create b requests = (.ok (), a', b') →
      b.createIfAbsent requests = (.ok (), b')
        ∧ a'.createFailures = 0 ∧ a'.describeFailures = a.describeFailures := by
    intro a b h
    rcases a.create_eq b requests with ⟨e, a₁, heq, _⟩ | ⟨a₁, heq, hnone, hsame⟩
    · rw [heq] at h
      cases h
    · rw [heq, Prod.mk.injEq, Prod.mk.injEq] at h
      obtain ⟨hanswer, rfl, hbroker⟩ := h
      exact ⟨Prod.ext hanswer hbroker, hnone, hsame⟩
  induction retries with
  | zero => exact hone
  | succ retries ih =>
      intro a b h
      unfold createRetrying at h
      split at h
      · rename_i e a₁ b₁ hfirst
        obtain ⟨hcreated, hnone, hsame⟩ := ih h
        rcases a.create_eq b requests with ⟨_, _, heq, hsame₁⟩ | ⟨_, heq, _⟩
        · rw [hfirst, Prod.mk.injEq, Prod.mk.injEq] at heq
          obtain ⟨_, rfl, rfl⟩ := heq
          exact ⟨hcreated, hnone, hsame.trans hsame₁⟩
        · -- what the broker itself refuses, it would refuse again
          rw [hfirst, Prod.mk.injEq] at heq
          have hok := (Broker.createIfAbsent_ok_iff requests b).2
            ((Broker.createIfAbsent_ok_iff requests b₁).1 (congrArg Prod.fst hcreated))
          rw [hok] at heq
          cases heq.1
      · exact hone h

/-- Without failures topics are created at once. -/
theorem createRetrying_of_no_failure (h : a.createFailures = 0) {b' : Broker}
    (hok : b.createIfAbsent requests = (.ok (), b')) (retries : Nat) :
    a.createRetrying b requests retries
      = (.ok (), { a with createCalls := a.createCalls + 1 }, b') := by
  have hone : a.create b requests = (.ok (), { a with createCalls := a.createCalls + 1 }, b') := by
    unfold create
    rw [h, hok]
    rfl
  cases retries with
  | zero => exact hone
  | succ retries =>
      unfold createRetrying
      rw [hone]

end Admin

end Redelivery
