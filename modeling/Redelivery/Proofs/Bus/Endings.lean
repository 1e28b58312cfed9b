/-
  Redelivery.Proofs.Bus.Endings
  ─────────────────────────────
  **How an activation ends.**

  There are three ways, and each leaves its reason behind (`Ending`):

      fired      it was due
      cancelled  a request in its owner's name was worked off
      cancelled  the scheduler has ended

  Requests are worked off in order, so one that was made before the
  activation was asked for does not reach it (`Spares`).  An activation that
  fires does so at its due time or later (`FiresFrom`).
-/
import Redelivery.Proofs.Bus.Activations

namespace Redelivery

namespace Scheduler

variable {x x' : Scheduler} {now id : Nat} {owner : String} {ended : Bool}

/-! ## §1. Reasons. -/

/-- `Ending now x x' id ended`: at time `now`, between `x` and `x'`, there was reason for the
activation to end, fired or cancelled. -/
inductive Ending (now : Nat) (x x' : Scheduler) (id : Nat) : Bool → Prop where
  | fired {a : Activation} (number : a.id = id) (queued : a ∈ x.queue) (due : a.due ≤ now) :
      Ending now x x' id true
  /-- The request in its owner's name was the oldest one. -/
  | cancelled {a : Activation} {rest : List SchedulerCommand} (number : a.id = id)
      (queued : a ∈ x.queue) (request : x.commands = .cancelOwner a.owner :: rest) :
      Ending now x x' id false
  | halted (ended : x'.halted = true) : Ending now x x' id false

theorem outcome?_of_append {more : List Resolution} (h : x'.resolved = x.resolved ++ more) :
    x'.outcome? id = (x.outcome? id).or ((more.find? fun r => r.id == id).map Resolution.fired) := by
  unfold outcome?
  rw [h, List.find?_append, Option.map_or]

theorem outcome?_of_resolved (h : x'.resolved = x.resolved) : x'.outcome? id = x.outcome? id := by
  unfold outcome?
  rw [h]

theorem of_find?_endAll {l : List Activation} {fired : Bool}
    (h : ((endAll l fired now).find? fun r => r.id == id).map Resolution.fired = some ended) :
    ended = fired ∧ ∃ a ∈ l, a.id = id := by
  obtain ⟨r, hr, hended⟩ := Option.map_eq_some_iff.1 h
  have hnumber : r.id = id := by simpa using List.find?_some hr
  obtain ⟨a, ha, rfl⟩ := List.mem_map.1 (List.mem_of_find?_eq_some hr)
  exact ⟨hended.symm, a, ha, hnumber⟩

/-- What ends together with others is one of them. -/
theorem of_outcome?_endAll {l : List Activation} {fired : Bool}
    (h : x'.resolved = x.resolved ++ endAll l fired now) (hended : x'.outcome? id = some ended) :
    x.outcome? id = some ended ∨ ended = fired ∧ ∃ a ∈ l, a.id = id := by
  rw [outcome?_of_append h] at hended
  cases hbefore : x.outcome? id with
  | some b =>
      rw [hbefore] at hended
      exact Or.inl hended
  | none =>
      rw [hbefore] at hended
      exact Or.inr (of_find?_endAll hended)

/-- **The scheduler ends an activation for a reason.** -/
theorem Turn.ending (turn : Turn now x x') (h : x'.outcome? id = some ended) :
    x.outcome? id = some ended ∨ Ending now x x' id ended := by
  cases turn with
  | worked work =>
      obtain ⟨_, ⟨a, rest, _, rfl⟩ | ⟨owner, rest, hcommands, rfl⟩⟩ := of_work? work
      · exact Or.inl h
      · rcases of_outcome?_endAll (x := x) rfl h with hbefore | ⟨rfl, a, ha, hid⟩
        · exact Or.inl hbefore
        · obtain ⟨hqueue, howner⟩ := List.mem_filter.1 ha
          exact Or.inr (.cancelled hid hqueue (by rw [hcommands, eq_of_beq howner]))
  | fired fire =>
      obtain ⟨_, rfl⟩ := of_fire? fire
      rcases of_outcome?_endAll (x := x) rfl h with hbefore | ⟨rfl, a, ha, hid⟩
      · exact Or.inl hbefore
      · -- what fires stands at the front of the queue and is due
        have hdue := of_decide_eq_true (List.all_eq_true.1 List.all_takeWhile a ha)
        exact Or.inr (.fired hid ((List.takeWhile_prefix _).subset ha) hdue)
  | halted halt =>
      have hover := of_halt? halt
      rcases of_outcome?_endAll (x := x) (congrArg resolved hover) h with hbefore | ⟨rfl, _⟩
      · exact Or.inl hbefore
      · exact Or.inr (.halted (by rw [hover]))
  | shutdown => exact Or.inl h

/-- Asking for an activation ends it only after the end of the scheduler. -/
theorem ending_schedule {delay : Nat}
    (h : (x.schedule now delay owner).2.outcome? id = some ended) :
    x.outcome? id = some ended ∨ Ending now x (x.schedule now delay owner).2 id ended := by
  cases hhalted : x.halted with
  | false =>
      rw [schedule_of_running hhalted] at h
      exact Or.inl h
  | true =>
      have happend : (x.schedule now delay owner).2.outcome? id = (x.outcome? id).or
          (([⟨x.nextId, false, now⟩].find? fun r => r.id == id).map Resolution.fired) :=
        outcome?_of_append (by rw [schedule_of_halted hhalted])
      rw [happend] at h
      cases hbefore : x.outcome? id with
      | some b =>
          rw [hbefore] at h
          exact Or.inl h
      | none =>
          rw [hbefore, Option.none_or] at h
          obtain ⟨r, hr, rfl⟩ := Option.map_eq_some_iff.1 h
          rw [List.mem_singleton.1 (List.mem_of_find?_eq_some hr), schedule_of_halted hhalted]
          exact Or.inr (.halted hhalted)

theorem outcome?_cancelOwner (x : Scheduler) (owner : String) :
    (x.cancelOwner owner).outcome? id = x.outcome? id := by
  apply outcome?_of_resolved
  unfold Scheduler.cancelOwner
  split <;> rfl

/-- The end of the scheduler is for good. -/
theorem Next.halted (next : x.Next x') (h : x.halted = true) : x'.halted = true := by
  cases next with
  | same => exact h
  | asked now delay owner =>
      rw [schedule_of_halted h]
      exact h
  | cancelling owner =>
      unfold Scheduler.cancelOwner
      rw [if_pos h]
      exact h
  | turned turn =>
      cases turn with
      | worked work =>
          rw [(of_work? work).1] at h
          cases h
      | fired fire =>
          rw [(of_fire? fire).1] at h
          cases h
      | halted halt => rw [of_halt? halt]
      | shutdown => exact h

/-! ## §2. Requests that come too early. -/

/-- Whatever request to cancel in the owner's name waits, stands in front of the request for the
activation. -/
def Spares (x : Scheduler) (owner : String) (id : Nat) : Prop :=
  ∀ before after, x.commands = before ++ .cancelOwner owner :: after → ∃ a ∈ asked after, a.id = id

theorem Spares.of_cons {command : SchedulerCommand} {rest : List SchedulerCommand}
    (h : x.Spares owner id) (hcommands : x.commands = command :: rest)
    (hrest : x'.commands = rest) : x'.Spares owner id := by
  intro before after heq
  refine h (command :: before) after ?_
  rw [hcommands, ← hrest, heq]
  rfl

/-- A request that is made later leaves it so, unless it is one to cancel in the owner's name. -/
theorem Spares.request {command : SchedulerCommand} (h : x.Spares owner id)
    (hother : command ≠ .cancelOwner owner) (hcommands : x'.commands = x.commands ++ [command]) :
    x'.Spares owner id := by
  intro before after heq
  rw [hcommands] at heq
  -- the last command is not the one that was found, so that one was there before
  rcases List.eq_nil_or_concat after with rfl | ⟨init, last, rfl⟩
  · exact absurd (List.append_inj_right' heq rfl) (by simpa using hother)
  · rw [List.concat_eq_append, ← List.cons_append, ← List.append_assoc] at heq
    obtain ⟨a, ha, hid⟩ := h before init (List.append_inj_left' heq rfl)
    refine ⟨a, ?_, hid⟩
    rw [List.concat_eq_append, asked_append]
    exact List.mem_append_left _ ha

/-- An activation that is asked for stands behind all requests that were made before. -/
theorem spares_schedule (h : x.halted = false) (delay : Nat) (owner' : String) :
    (x.schedule now delay owner').2.Spares owner x.nextId := by
  rw [schedule_of_running h]
  intro before after heq
  rcases List.eq_nil_or_concat after with rfl | ⟨init, last, rfl⟩
  · have hlast := List.append_inj_right' heq rfl
    cases hlast
  · rw [List.concat_eq_append, ← List.cons_append, ← List.append_assoc] at heq
    have hlast := List.append_inj_right' heq rfl
    refine ⟨⟨dueTime now delay, x.nextId, owner'⟩, ?_, rfl⟩
    rw [List.concat_eq_append, ← hlast, asked_append]
    exact List.mem_append_right _ (by simp [asked])

/-- **Nothing in the owner's name reaches the activation**: the scheduler has ended, or the activation
is not cancelled and no request that waits will cancel it. -/
def Untouched (x : Scheduler) (owner : String) (id : Nat) : Prop :=
  x.halted = true ∨ x.Spares owner id ∧ x.outcome? id ≠ some false

theorem Untouched.outcome? (h : x.Untouched owner id) (running : x.halted = false) :
    x.outcome? id ≠ some false := by
  rcases h with hover | ⟨_, houtcome⟩
  · rw [running] at hover
    cases hover
  · exact houtcome

/-- **From the moment that it is asked for.** -/
theorem untouched_schedule (h : x.Accounted) (delay : Nat) (owner' : String) :
    (x.schedule now delay owner').2.Untouched owner x.nextId := by
  cases hhalted : x.halted with
  | true =>
      rw [schedule_of_halted hhalted]
      exact Or.inl hhalted
  | false =>
      refine Or.inr ⟨spares_schedule hhalted delay owner', ?_⟩
      rw [schedule_of_running hhalted]
      have hnew : x.outcome? x.nextId = none := by
        rw [outcome?_eq_none]
        intro hresolved
        exact absurd (h.mem_iff.2 (Or.inr hresolved)) (Nat.lt_irrefl _)
      intro hcancelled
      rw [show x.outcome? x.nextId = some false from hcancelled] at hnew
      cases hnew

/-- No activation is both in the queue and asked for. -/
theorem Accounted.not_asked (h : x.Accounted) {a b : Activation} (ha : a ∈ x.queue)
    (hb : b ∈ asked x.commands) : a.id ≠ b.id := by
  have hnodup := (List.nodup_append.1 h.nodup).1
  unfold waiting at hnodup
  rw [List.map_append] at hnodup
  exact (List.nodup_append.1 hnodup).2.2 _ (List.mem_map_of_mem ha) _ (List.mem_map_of_mem hb)

/-- Another activation may be asked for. -/
theorem Untouched.schedule (h : x.Untouched owner id) (delay : Nat) (owner' : String) :
    (x.schedule now delay owner').2.Untouched owner id := by
  rcases h with hover | ⟨hspares, houtcome⟩
  · exact Or.inl ((Next.asked now delay owner').halted hover)
  · cases hhalted : x.halted with
    | true => exact Or.inl ((Next.asked now delay owner').halted hhalted)
    | false =>
        rw [schedule_of_running hhalted]
        exact Or.inr ⟨hspares.request (fun heq => by cases heq) rfl, houtcome⟩

/-- A request in another owner's name may be made. -/
theorem Untouched.cancelOwner (h : x.Untouched owner id) {owner' : String} (hother : owner' ≠ owner) :
    (x.cancelOwner owner').Untouched owner id := by
  rcases h with hover | ⟨hspares, houtcome⟩
  · exact Or.inl ((Next.cancelling owner').halted hover)
  · refine Or.inr ⟨?_, by rw [outcome?_cancelOwner]; exact houtcome⟩
    unfold Scheduler.cancelOwner
    split
    · exact hspares
    · exact hspares.request (fun heq => hother (by cases heq; rfl)) rfl

/-- **The scheduler may take a turn**: the request that it works off stands in front of the
activation's own, so it does not find the activation in the queue. -/
theorem Untouched.turn (h : x.Untouched owner id) (accounted : x.Accounted)
    (owned : ∀ a ∈ x.waiting, a.id = id → a.owner = owner) (turn : Turn now x x') :
    x'.Untouched owner id := by
  rcases h with hover | ⟨hspares, houtcome⟩
  · exact Or.inl ((Next.turned turn).halted hover)
  · have hcancelled : x'.outcome? id = some false → x'.halted = true := by
      intro hended
      rcases turn.ending hended with hbefore | hending
      · exact absurd hbefore houtcome
      · cases hending with
        | @cancelled a rest number queued request =>
            have howner := owned a (List.mem_append_left _ queued) number
            rw [howner] at request
            obtain ⟨b, hb, hid⟩ := hspares [] rest request
            refine absurd (number.trans hid.symm) (accounted.not_asked queued ?_)
            rw [request, asked_cancelOwner]
            exact hb
        | halted ended => exact ended
    by_cases hended : x'.outcome? id = some false
    · exact Or.inl (hcancelled hended)
    · cases turn with
      | worked work =>
          obtain ⟨_, ⟨a, rest, hcommands, rfl⟩ | ⟨owner', rest, hcommands, rfl⟩⟩ := of_work? work
          · exact Or.inr ⟨hspares.of_cons hcommands rfl, hended⟩
          · exact Or.inr ⟨hspares.of_cons hcommands rfl, hended⟩
      | fired fire =>
          obtain ⟨_, rfl⟩ := of_fire? fire
          exact Or.inr ⟨hspares, hended⟩
      | halted halt => exact Or.inl (by rw [of_halt? halt])
      | shutdown => exact Or.inr ⟨hspares, hended⟩

/-! ## §3. Times. -/

/-- The activation, which was asked for, fires at this time or later, if it fires at all. -/
structure FiresFrom (x : Scheduler) (now id due : Nat) : Prop where
  known : id < x.nextId
  waits : ∀ a ∈ x.waiting, a.id = id → due ≤ a.due
  fired : x.outcome? id = some true → due ≤ now

variable {due : Nat}

theorem FiresFrom.later {now' : Nat} (h : x.FiresFrom now id due) (hlater : now ≤ now') :
    x.FiresFrom now' id due :=
  ⟨h.known, h.waits, fun hfired => Nat.le_trans (h.fired hfired) hlater⟩

/-- What ends the activation as fired was due. -/
theorem FiresFrom.of_ending (h : x.FiresFrom now id due)
    (hended : x'.outcome? id = some true → x.outcome? id = some true ∨ Ending now x x' id true)
    (known : x.nextId ≤ x'.nextId) (waits : ∀ a ∈ x'.waiting, a ∈ x.waiting ∨ x.nextId ≤ a.id) :
    x'.FiresFrom now id due where
  known := Nat.lt_of_lt_of_le h.known known
  waits := by
    intro a ha hid
    rcases waits a ha with hold | hnew
    · exact h.waits a hold hid
    · have hknown := h.known
      omega
  fired := by
    intro hfired
    rcases hended hfired with hbefore | hending
    · exact h.fired hbefore
    · cases hending with
      | fired number queued hdue =>
          exact Nat.le_trans (h.waits _ (List.mem_append_left _ queued) number) hdue

/-- **An activation fires no earlier than the delay says that it was asked for with.** -/
theorem firesFrom_schedule (h : x.Accounted) (delay : Nat) (owner : String) :
    (x.schedule now delay owner).2.FiresFrom now x.nextId (dueTime now delay) := by
  have hold : ∀ a ∈ x.waiting, a.id ≠ x.nextId := by
    intro a ha
    have hlt := h.mem_iff.2 (Or.inl (List.mem_map_of_mem ha))
    omega
  refine ⟨by rw [schedule_nextId]; omega, ?_, ?_⟩
  · intro a ha hid
    cases hhalted : x.halted with
    | true =>
        rw [schedule_of_halted hhalted] at ha
        exact absurd hid (hold a ha)
    | false =>
        rw [schedule_of_running hhalted] at ha
        unfold waiting at ha
        rw [asked_append, ← List.append_assoc] at ha
        rcases List.mem_append.1 ha with ha | hnew
        · exact absurd hid (hold a ha)
        · cases List.mem_singleton.1 hnew
          exact Nat.le_refl _
  · intro hfired
    rcases ending_schedule hfired with hbefore | hending
    · -- nothing has ended under a number that was not given out
      have hnone : x.nextId ∉ x.resolvedIds := by
        intro hresolved
        exact absurd (h.mem_iff.2 (Or.inr hresolved)) (Nat.lt_irrefl _)
      rw [outcome?_eq_none.2 hnone] at hbefore
      cases hbefore
    · cases hending with
      | fired number queued _ => exact absurd number (hold _ (List.mem_append_left _ queued))

/-- Another activation may be asked for. -/
theorem FiresFrom.schedule (h : x.FiresFrom now id due) (delay : Nat) (owner : String) :
    (x.schedule now delay owner).2.FiresFrom now id due :=
  h.of_ending ending_schedule (Next.asked (x := x) now delay owner).grows.1
    fun _ ha => (Next.asked now delay owner).waiting ha

theorem FiresFrom.cancelOwner (h : x.FiresFrom now id due) (owner : String) :
    (x.cancelOwner owner).FiresFrom now id due :=
  h.of_ending (fun hfired => Or.inl ((outcome?_cancelOwner x owner).symm.trans hfired))
    (Next.cancelling (x := x) owner).grows.1 fun _ ha => (Next.cancelling owner).waiting ha

/-- **The scheduler fires nothing early.** -/
theorem FiresFrom.turn (h : x.FiresFrom now id due) (turn : Turn now x x') :
    x'.FiresFrom now id due :=
  h.of_ending turn.ending (Next.turned turn).grows.1 fun _ ha => (Next.turned turn).waiting ha

end Scheduler

end Redelivery
