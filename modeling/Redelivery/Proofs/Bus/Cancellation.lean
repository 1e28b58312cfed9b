/-
  Redelivery.Proofs.Bus.Cancellation
  ──────────────────────────────────
  **A request to cancel reaches everything that was asked for before it.**

  Requests are worked off in order.  So while the request waits, whatever its
  owner had asked for before stands in front of it or is in the queue:

      queue  |  before  |  cancel the owner  |  after

  and once it has been worked off, none of that waits any more.
-/
import Redelivery.Proofs.Bus.Activations

namespace Redelivery

namespace Scheduler

variable {x x' : Scheduler} {owner : String} {ids : List Nat}

/-- None of these activations is behind a request to cancel what the owner has, or none waits at
all. -/
def Clears (x : Scheduler) (owner : String) (ids : List Nat) : Prop :=
  (∃ before after, x.commands = before ++ .cancelOwner owner :: after
    ∧ ∀ a ∈ asked after, a.id ∉ ids)
  ∨ ∀ a ∈ x.waiting, a.id ∉ ids

/-- **From the moment that the request is made.** -/
theorem clears_cancelOwner (h : x.Accounted) (owner : String) (ids : List Nat) :
    (x.cancelOwner owner).Clears owner ids := by
  unfold Scheduler.cancelOwner
  split
  · rename_i hhalted
    right
    intro a ha
    rw [h.idle hhalted] at ha
    cases ha
  · exact Or.inl ⟨x.commands, [], rfl, fun a ha => by cases ha⟩

/-- A request that is made later stands behind it. -/
theorem Clears.request {command : SchedulerCommand} (h : x.Clears owner ids)
    (hnew : ∀ a ∈ asked [command], a.id ∉ ids) :
    Clears { x with commands := x.commands ++ [command] } owner ids := by
  rcases h with ⟨before, after, hcommands, hafter⟩ | hnone
  · refine Or.inl ⟨before, after ++ [command], ?_, ?_⟩
    · show x.commands ++ [command] = _
      rw [hcommands, List.append_assoc]
      rfl
    · intro a ha
      rw [asked_append, List.mem_append] at ha
      rcases ha with ha | ha
      · exact hafter a ha
      · exact hnew a ha
  · right
    intro a ha
    unfold waiting at ha
    rw [asked_append, ← List.append_assoc, List.mem_append] at ha
    rcases ha with ha | ha
    · exact hnone a ha
    · exact hnew a ha

/-- When the request comes to the front, all of the owner's activations are in the queue. -/
theorem Clears.work? {now : Nat} (h : x.Clears owner ids)
    (owned : ∀ a ∈ x.waiting, a.id ∈ ids → a.owner = owner) (hwork : x.work? now = some x') :
    x'.Clears owner ids := by
  rcases h with ⟨before, after, hcommands, hafter⟩ | hnone
  · obtain ⟨_, ⟨a, rest, hrest, rfl⟩ | ⟨owner', rest, hrest, rfl⟩⟩ := of_work? hwork
    · rw [hcommands] at hrest
      cases before with
      | nil => cases hrest
      | cons first before =>
          cases hrest
          exact Or.inl ⟨before, after, rfl, hafter⟩
    · rw [hcommands] at hrest
      cases before with
      | nil =>
          cases hrest
          right
          intro a ha hid
          rcases List.mem_append.1 ha with hqueue | hasked
          · obtain ⟨hmem, hother⟩ := List.mem_filter.1 hqueue
            rw [owned a (List.mem_append_left _ hmem) hid] at hother
            simp at hother
          · exact hafter a hasked hid
      | cons first before =>
          cases hrest
          exact Or.inl ⟨before, after, rfl, hafter⟩
  · exact Or.inr fun a ha => hnone a ((Turn.worked hwork).waiting ha)

/-- **It stays so whatever happens.** -/
theorem Clears.next (h : x.Clears owner ids) (known : ∀ id ∈ ids, id < x.nextId)
    (owned : ∀ a ∈ x.waiting, a.id ∈ ids → a.owner = owner) (next : x.Next x') :
    x'.Clears owner ids := by
  cases next with
  | same => exact h
  | asked now delay other =>
      unfold Scheduler.schedule
      simp only
      split
      · exact h
      · refine h.request fun a ha hid => ?_
        rw [asked_schedule] at ha
        rcases List.mem_cons.1 ha with rfl | hnone
        · have hlt := known _ hid
          simp at hlt
        · cases hnone
  | cancelling other =>
      unfold Scheduler.cancelOwner
      split
      · exact h
      · exact h.request fun a ha => by cases ha
  | turned turn =>
      cases turn with
      | worked work => exact h.work? owned work
      | fired fire =>
          rcases h with hasked | hnone
          · obtain ⟨_, rfl⟩ := of_fire? fire
            exact Or.inl hasked
          · exact Or.inr fun a ha => hnone a ((Turn.fired fire).waiting ha)
      | halted halt =>
          right
          intro a ha
          rw [of_halt? halt] at ha
          cases ha
      | shutdown => exact h

/-- **Once all requests have been worked off, none of the activations waits.** -/
theorem Clears.of_idle (h : x.Clears owner ids) (worked : x.commands = []) :
    ∀ a ∈ x.waiting, a.id ∉ ids := by
  rcases h with ⟨before, after, hcommands, _⟩ | hnone
  · rw [worked] at hcommands
    have hlength := congrArg List.length hcommands
    simp at hlength
  · exact hnone

end Scheduler

end Redelivery
