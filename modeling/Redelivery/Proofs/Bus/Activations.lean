/-
  Redelivery.Proofs.Bus.Activations
  ─────────────────────────────────
  **Every activation is in one place.**

  An activation waits among the requests, then in the queue, and is resolved
  once.  Numbers are given out in order, so at all times

      requests ++ queue ++ resolved  ~  0, 1, …, nextId - 1

  (`Scheduler.Accounted`).  Every operation keeps the account; what follows
  is that an activation is unresolved exactly as long as it waits.
-/
import Mathlib.Data.List.Perm.Basic
import Redelivery.Bus.Scheduler

namespace Redelivery

namespace Scheduler

variable {x x' : Scheduler} {now : Nat}

/-! ## §1. Requests and places. -/

theorem asked_append (l l' : List SchedulerCommand) : asked (l ++ l') = asked l ++ asked l' := by
  unfold asked
  simp

theorem asked_schedule (a : Activation) (l : List SchedulerCommand) :
    asked (.schedule a :: l) = a :: asked l := by
  unfold asked
  simp

theorem asked_cancelOwner (owner : String) (l : List SchedulerCommand) :
    asked (.cancelOwner owner :: l) = asked l := by
  unfold asked
  simp

/-- The queue holds what it held, and the new activation. -/
theorem enqueue_perm (a : Activation) (l : List Activation) : (enqueue a l).Perm (a :: l) := by
  induction l with
  | nil => exact .refl _
  | cons b rest ih =>
      unfold enqueue
      split
      · exact .refl _
      · exact (ih.cons b).trans (.swap a b rest)

/-- The activations that have not ended. -/
def waiting (x : Scheduler) : List Activation := x.queue ++ asked x.commands

/-- The numbers of the activations that have ended. -/
def resolvedIds (x : Scheduler) : List Nat := x.resolved.map Resolution.id

/-- Each activation that ends is resolved under its own number. -/
theorem resolvedIds_endAll (l : List Activation) (fired : Bool) (now : Nat) :
    (endAll l fired now).map Resolution.id = l.map Activation.id := by
  unfold endAll
  simp

/-! ## §2. What the operations do. -/

/-- An activation gets the next number. -/
theorem schedule_fst (x : Scheduler) (now delay : Nat) (owner : String) :
    (x.schedule now delay owner).1 = x.nextId := by
  unfold schedule
  simp only
  split <;> rfl

theorem schedule_nextId (x : Scheduler) (now delay : Nat) (owner : String) :
    (x.schedule now delay owner).2.nextId = x.nextId + 1 := by
  unfold schedule
  simp only
  split <;> rfl

/-- A scheduler that has ended cancels what it is asked for. -/
theorem schedule_of_halted (h : x.halted = true) (delay : Nat) (owner : String) :
    (x.schedule now delay owner).2
      = { x with nextId := x.nextId + 1, resolved := x.resolved ++ [⟨x.nextId, false, now⟩] } := by
  unfold schedule
  simp only [h, if_true]

/-- A scheduler that runs puts what it is asked for in its queue of requests. -/
theorem schedule_of_running (h : x.halted = false) (delay : Nat) (owner : String) :
    (x.schedule now delay owner).2
      = { x with
          nextId := x.nextId + 1
          commands := x.commands ++ [.schedule ⟨dueTime now delay, x.nextId, owner⟩] } := by
  unfold schedule
  simp only [h, Bool.false_eq_true, if_false]

/-- The oldest request is worked off. -/
theorem of_work? (h : x.work? now = some x') :
    x.halted = false ∧
      ((∃ a rest, x.commands = .schedule a :: rest
        ∧ x' = { x with commands := rest, queue := enqueue a x.queue })
      ∨ ∃ owner rest, x.commands = .cancelOwner owner :: rest
        ∧ x' = { x with
            commands := rest
            queue := x.queue.filter fun a => !(a.owner == owner)
            resolved := x.resolved ++ endAll (x.queue.filter fun a => a.owner == owner) false
              now }) := by
  unfold work? at h
  split at h
  · cases h
  · rename_i hrunning
    refine ⟨Bool.not_eq_true _ ▸ hrunning, ?_⟩
    split at h
    · cases h
    · rename_i a rest hcommands
      cases h
      exact Or.inl ⟨a, rest, hcommands, rfl⟩
    · rename_i owner rest hcommands
      rw [List.partition_eq_filter_filter] at h
      cases h
      exact Or.inr ⟨owner, rest, hcommands, rfl⟩

/-- What is due fires. -/
theorem of_fire? (h : x.fire? now = some x') :
    x.halted = false ∧ x' = { x with
      queue := x.queue.dropWhile fun a => a.due ≤ now
      resolved := x.resolved ++ endAll (x.queue.takeWhile fun a => a.due ≤ now) true now } := by
  unfold fire? at h
  split at h
  · cases h
  · rename_i hrunning
    simp only at h
    split at h
    · cases h
    · cases h
      exact ⟨Bool.not_eq_true _ ▸ hrunning, rfl⟩

/-- Everything that waits is cancelled. -/
theorem of_halt? (h : x.halt? now = some x') :
    x' = { x with
      halted := true
      commands := []
      queue := []
      resolved := x.resolved ++ endAll x.waiting false now } := by
  unfold halt? at h
  split at h
  · cases h
    rfl
  · cases h

/-- The scheduler works, or is asked to end. -/
inductive Turn (now : Nat) (x : Scheduler) : Scheduler → Prop where
  | worked {x' : Scheduler} (work : x.work? now = some x') : Turn now x x'
  | fired {x' : Scheduler} (fire : x.fire? now = some x') : Turn now x x'
  | halted {x' : Scheduler} (halt : x.halt? now = some x') : Turn now x x'
  | shutdown : Turn now x x.shutdown

/-- Only the new activation begins to wait. -/
theorem waiting_schedule {a : Activation} {delay : Nat} {owner : String}
    (ha : a ∈ (x.schedule now delay owner).2.waiting) :
    a ∈ x.waiting ∨ (a.id = x.nextId ∧ a.owner = owner) := by
  cases hhalted : x.halted with
  | true =>
      rw [schedule_of_halted hhalted] at ha
      exact Or.inl ha
  | false =>
      rw [schedule_of_running hhalted] at ha
      unfold waiting at ha ⊢
      rw [Scheduler.asked_append, asked_schedule] at ha
      rcases List.mem_append.1 ha with hqueue | hasked
      · exact Or.inl (List.mem_append_left _ hqueue)
      · rcases List.mem_append.1 hasked with hasked | hnew
        · exact Or.inl (List.mem_append_right _ hasked)
        · rcases List.mem_cons.1 hnew with rfl | hnone
          · exact Or.inr ⟨rfl, rfl⟩
          · cases hnone

/-- A request to cancel ends nothing by itself. -/
theorem waiting_cancelOwner (x : Scheduler) (owner : String) :
    (x.cancelOwner owner).waiting = x.waiting := by
  unfold Scheduler.cancelOwner
  split
  · rfl
  · show x.queue ++ asked (x.commands ++ [.cancelOwner owner]) = _
    rw [asked_append, asked_cancelOwner]
    show x.queue ++ (asked x.commands ++ []) = _
    rw [List.append_nil]
    rfl

/-- **A turn of the scheduler makes nothing wait that did not wait before.** -/
theorem Turn.waiting (turn : Turn now x x') {a : Activation} (ha : a ∈ x'.waiting) :
    a ∈ x.waiting := by
  unfold Scheduler.waiting at ha ⊢
  cases turn with
  | worked work =>
      obtain ⟨_, ⟨b, rest, hcommands, rfl⟩ | ⟨owner, rest, hcommands, rfl⟩⟩ := of_work? work
      · rw [hcommands, asked_schedule]
        rcases List.mem_append.1 ha with hqueue | hasked
        · rcases List.mem_cons.1 ((enqueue_perm b x.queue).mem_iff.1 hqueue) with rfl | hqueue
          · simp
          · exact List.mem_append_left _ hqueue
        · exact List.mem_append_right _ (List.mem_cons_of_mem b hasked)
      · rw [hcommands, asked_cancelOwner]
        rcases List.mem_append.1 ha with hqueue | hasked
        · exact List.mem_append_left _ (List.mem_filter.1 hqueue).1
        · exact List.mem_append_right _ hasked
  | fired fire =>
      obtain ⟨_, rfl⟩ := of_fire? fire
      rcases List.mem_append.1 ha with hqueue | hasked
      · exact List.mem_append_left _ ((List.dropWhile_suffix _).subset hqueue)
      · exact List.mem_append_right _ hasked
  | halted halt =>
      rw [of_halt? halt] at ha
      cases ha
  | shutdown => exact ha

/-! ## §3. Accounts. -/

/-- Each number that was given out is in one place, and nothing waits after the end. -/
structure Accounted (x : Scheduler) : Prop where
  places : (x.waiting.map Activation.id ++ x.resolvedIds).Perm (List.range x.nextId)
  idle : x.halted = true → x.waiting = []

theorem accounted_empty : Accounted {} := ⟨.refl _, fun h => by cases h⟩

namespace Accounted

/-- **Asking for an activation gives out the next number.** -/
theorem schedule (h : x.Accounted) (delay : Nat) (owner : String) :
    (x.schedule now delay owner).2.Accounted := by
  have hplaces := h.places
  cases hhalted : x.halted with
  | true =>
      rw [schedule_of_halted hhalted]
      refine ⟨?_, fun _ => h.idle hhalted⟩
      simp only [waiting, resolvedIds, List.map_append, List.range_succ] at hplaces ⊢
      rw [← List.append_assoc]
      exact hplaces.append_right [x.nextId]
  | false =>
      rw [schedule_of_running hhalted]
      refine ⟨?_, fun hh => by rw [hhalted] at hh; cases hh⟩
      simp only [waiting, resolvedIds, asked_append, asked_schedule, List.map_append,
        List.range_succ] at hplaces ⊢
      rw [List.perm_iff_count] at hplaces ⊢
      intro n
      have hn := hplaces n
      simp only [List.count_append] at hn ⊢
      show _ + (_ + List.count n [x.nextId]) + _ = _
      omega

theorem cancelOwner (h : x.Accounted) (owner : String) : (x.cancelOwner owner).Accounted := by
  refine ⟨?_, ?_⟩
  · rw [waiting_cancelOwner]
    unfold Scheduler.cancelOwner
    split
    · exact h.places
    · exact h.places
  · rw [waiting_cancelOwner]
    unfold Scheduler.cancelOwner
    split
    · exact h.idle
    · exact h.idle

theorem work? (h : x.Accounted) (hwork : x.work? now = some x') : x'.Accounted := by
  have hplaces := h.places
  obtain ⟨hrunning, ⟨a, rest, hcommands, rfl⟩ | ⟨owner, rest, hcommands, rfl⟩⟩ := of_work? hwork
  · refine ⟨?_, fun hh => by rw [hrunning] at hh; cases hh⟩
    refine .trans ?_ hplaces
    -- the activation goes from the front of the requests to its place in the queue
    unfold waiting resolvedIds
    rw [hcommands, asked_schedule]
    have hmoved : (enqueue a x.queue ++ asked rest).Perm (x.queue ++ a :: asked rest) :=
      ((enqueue_perm a x.queue).append_right _).trans List.perm_middle.symm
    exact (hmoved.map _).append_right _
  · refine ⟨?_, fun hh => by rw [hrunning] at hh; cases hh⟩
    refine .trans ?_ hplaces
    simp only [waiting, resolvedIds, hcommands, asked_cancelOwner, List.map_append,
      resolvedIds_endAll]
    -- those of the owner go from the queue to the end of those that have ended
    have hsplit := (List.filter_append_perm (fun a : Activation => a.owner == owner) x.queue).map
      Activation.id
    rw [List.perm_iff_count] at hsplit ⊢
    intro n
    have hn := hsplit n
    simp only [List.map_append, List.count_append] at hn ⊢
    omega

theorem fire? (h : x.Accounted) (hfire : x.fire? now = some x') : x'.Accounted := by
  have hplaces := h.places
  obtain ⟨hrunning, rfl⟩ := of_fire? hfire
  refine ⟨?_, fun hh => by rw [hrunning] at hh; cases hh⟩
  refine .trans ?_ hplaces
  simp only [waiting, resolvedIds, List.map_append, resolvedIds_endAll]
  have hsplit := congrArg (List.map Activation.id)
    (List.takeWhile_append_dropWhile (p := fun a : Activation => decide (a.due ≤ now))
      (l := x.queue))
  rw [List.perm_iff_count]
  intro n
  have hn := congrArg (List.count n) hsplit
  simp only [List.map_append, List.count_append] at hn ⊢
  omega

theorem halt? (h : x.Accounted) (hhalt : x.halt? now = some x') : x'.Accounted := by
  have hplaces := h.places
  rw [of_halt? hhalt]
  refine ⟨?_, fun _ => rfl⟩
  show (x.resolved ++ endAll x.waiting false now).map Resolution.id |>.Perm _
  rw [List.map_append, resolvedIds_endAll]
  exact List.perm_append_comm.trans hplaces

/-! ## §4. What the accounts say. -/

/-- No number is in two places. -/
theorem nodup (h : x.Accounted) : (x.waiting.map Activation.id ++ x.resolvedIds).Nodup :=
  h.places.nodup_iff.2 List.nodup_range

/-- The numbers handed out are those that wait or are resolved. -/
theorem mem_iff (h : x.Accounted) {id : Nat} :
    id < x.nextId ↔ id ∈ x.waiting.map Activation.id ∨ id ∈ x.resolvedIds := by
  rw [← List.mem_append, h.places.mem_iff, List.mem_range]

/-- What waits has not ended. -/
theorem disjoint (h : x.Accounted) {id : Nat} (hwaits : id ∈ x.waiting.map Activation.id) :
    id ∉ x.resolvedIds := by
  intro hresolved
  exact (List.nodup_append.1 h.nodup).2.2 id hwaits id hresolved rfl

end Accounted

/-- An activation has an outcome once it has ended. -/
theorem outcome?_eq_none {id : Nat} : x.outcome? id = none ↔ id ∉ x.resolvedIds := by
  unfold outcome? resolvedIds
  rw [Option.map_eq_none_iff, List.find?_eq_none]
  simp only [beq_iff_eq, List.mem_map, not_exists, not_and]

/-! ## §5. Whatever happens to a scheduler. -/

/-- `x.Next x'`: somebody asks for something, or the scheduler takes a turn, or nothing happens. -/
inductive Next (x : Scheduler) : Scheduler → Prop where
  | same : Next x x
  | asked (now delay : Nat) (owner : String) : Next x (x.schedule now delay owner).2
  | cancelling (owner : String) : Next x (x.cancelOwner owner)
  | turned {x' : Scheduler} {now : Nat} (turn : Turn now x x') : Next x x'

/-- **Every turn of the scheduler keeps the account.** -/
theorem Accounted.turn (h : x.Accounted) (turn : Turn now x x') : x'.Accounted := by
  cases turn with
  | worked work => exact h.work? work
  | fired fire => exact h.fire? fire
  | halted halt => exact h.halt? halt
  | shutdown => exact ⟨h.places, h.idle⟩

/-- **The accounts are kept.** -/
theorem Accounted.next (h : x.Accounted) (next : x.Next x') : x'.Accounted := by
  cases next with
  | same => exact h
  | asked now delay owner => exact h.schedule delay owner
  | cancelling owner => exact h.cancelOwner owner
  | turned turn => exact h.turn turn

/-- Numbers are only given out, and what has ended has ended for good. -/
theorem Next.grows (next : x.Next x') :
    x.nextId ≤ x'.nextId ∧ ∀ id ∈ x.resolvedIds, id ∈ x'.resolvedIds := by
  have hmore : ∀ (l : List Resolution), ∀ id ∈ x.resolvedIds,
      id ∈ (x.resolved ++ l).map Resolution.id := by
    intro l id hid
    rw [List.map_append]
    exact List.mem_append_left _ hid
  cases next with
  | same => exact ⟨Nat.le_refl _, fun _ => id⟩
  | asked now delay owner =>
      unfold Scheduler.schedule
      simp only
      split
      · exact ⟨Nat.le_succ _, hmore _⟩
      · exact ⟨Nat.le_succ _, fun _ => id⟩
  | cancelling owner =>
      unfold Scheduler.cancelOwner
      split
      · exact ⟨Nat.le_refl _, fun _ => id⟩
      · exact ⟨Nat.le_refl _, fun _ => id⟩
  | turned turn =>
      cases turn with
      | worked work =>
          obtain ⟨_, ⟨a, rest, _, rfl⟩ | ⟨owner, rest, _, rfl⟩⟩ := of_work? work
          · exact ⟨Nat.le_refl _, fun _ => id⟩
          · exact ⟨Nat.le_refl _, hmore _⟩
      | fired fire =>
          obtain ⟨_, rfl⟩ := of_fire? fire
          exact ⟨Nat.le_refl _, hmore _⟩
      | halted halt =>
          rw [of_halt? halt]
          exact ⟨Nat.le_refl _, hmore _⟩
      | shutdown => exact ⟨Nat.le_refl _, fun _ => id⟩

/-- **What waits has waited before, unless it has a new number.** -/
theorem Next.waiting (next : x.Next x') {a : Activation} (ha : a ∈ x'.waiting) :
    a ∈ x.waiting ∨ x.nextId ≤ a.id := by
  cases next with
  | same => exact Or.inl ha
  | asked now delay owner =>
      rcases waiting_schedule ha with hold | ⟨hid, _⟩
      · exact Or.inl hold
      · exact Or.inr (Nat.le_of_eq hid.symm)
  | cancelling owner =>
      rw [waiting_cancelOwner] at ha
      exact Or.inl ha
  | turned turn => exact Or.inl (turn.waiting ha)

end Scheduler

end Redelivery
