/-
  Redelivery.Proofs.Bus.Timetable
  ───────────────────────────────
  **The law of the scheduler.**

  A timetable is a scheduler on a clock, with every activation that was ever
  asked for, by number.  Requests are worked off in the order in which they
  were made, so the activations split into three parts:

      asked for  =  ended or queued (the first n)  |  request still waits

  The queue is ordered by due time and number.  What fires is a part of it
  from the front, so of two activations in the queue the smaller one fires
  first, if both fire.
-/
import Mathlib.Data.List.Nodup
import Redelivery.Proofs.Bus.Cancellation
import Redelivery.Proofs.Bus.Endings

namespace Redelivery

/-! ## §1. The order of the queue. -/

theorem Activation.before_iff (a b : Activation) :
    a.before b = true ↔ a.due < b.due ∨ (a.due = b.due ∧ a.id < b.id) := by
  unfold before
  simp

/-- Of two activations of different numbers one comes before the other. -/
theorem Activation.before_of_not {a b : Activation} (h : ¬a.before b = true) (hid : a.id ≠ b.id) :
    b.before a = true := by
  rw [before_iff] at h ⊢
  omega

theorem Activation.before_trans {a b c : Activation} (h : a.before b = true)
    (h' : b.before c = true) : a.before c = true := by
  rw [before_iff] at h h' ⊢
  omega

theorem Activation.not_before_of_before {a b : Activation} (h : a.before b = true) :
    ¬b.before a = true := by
  rw [before_iff] at h ⊢
  omega

namespace Scheduler

variable {x x' : Scheduler} {now : Nat}

/-- The queue has the activation that comes first in front. -/
def Sorted (x : Scheduler) : Prop := x.queue.Pairwise fun a b => a.before b = true

/-- **A new activation is put into its place.** -/
theorem pairwise_enqueue {a : Activation} {l : List Activation}
    (h : l.Pairwise fun a b => a.before b = true) (hnew : ∀ b ∈ l, a.id ≠ b.id) :
    (enqueue a l).Pairwise fun a b => a.before b = true := by
  induction l with
  | nil => exact List.pairwise_singleton _ a
  | cons b rest ih =>
      obtain ⟨hfirst, hrest⟩ := List.pairwise_cons.1 h
      unfold enqueue
      split
      · rename_i hbefore
        refine List.pairwise_cons.2 ⟨fun c hc => ?_, h⟩
        rcases List.mem_cons.1 hc with rfl | hc
        · exact hbefore
        · exact Activation.before_trans hbefore (hfirst c hc)
      · rename_i hnot
        have hafter := Activation.before_of_not hnot (hnew b List.mem_cons_self)
        refine List.pairwise_cons.2 ⟨fun c hc => ?_, ih hrest fun c hc => ?_⟩
        · rcases List.mem_cons.1 ((enqueue_perm a rest).mem_iff.1 hc) with rfl | hc
          · exact hafter
          · exact hfirst c hc
        · exact hnew c (List.mem_cons_of_mem b hc)

/-- **The queue stays in order.** -/
theorem Sorted.next (h : x.Sorted) (accounted : x.Accounted) (next : x.Next x') : x'.Sorted := by
  cases next with
  | same => exact h
  | asked now delay owner =>
      unfold Scheduler.schedule
      simp only
      split
      · exact h
      · exact h
  | cancelling owner =>
      unfold Scheduler.cancelOwner
      split
      · exact h
      · exact h
  | turned turn =>
      cases turn with
      | worked work =>
          obtain ⟨_, ⟨a, rest, hcommands, rfl⟩ | ⟨owner, rest, _, rfl⟩⟩ := of_work? work
          · refine pairwise_enqueue h fun b hb heq => ?_
            -- what is asked for is not in the queue yet
            refine accounted.not_asked hb ?_ heq.symm
            rw [hcommands, asked_schedule]
            exact List.mem_cons_self
          · exact h.filter _
      | fired fire =>
          obtain ⟨_, rfl⟩ := of_fire? fire
          exact List.Pairwise.sublist (List.dropWhile_suffix _).sublist h
      | halted halt =>
          rw [of_halt? halt]
          exact List.Pairwise.nil
      | shutdown => exact h

/-! ## §2. Who fires first. -/

/-- **Nothing fires but what is due**: whatever else ends at a step is cancelled. -/
theorem Next.resolved (next : x.Next x') :
    (∃ more, x'.resolved = x.resolved ++ more ∧ ∀ r ∈ more, r.fired = false)
      ∨ ∃ now, x.fire? now = some x' := by
  have hcancelled : ∀ (l : List Activation) (now : Nat), ∀ r ∈ endAll l false now,
      r.fired = false := by
    intro l now r hr
    obtain ⟨a, _, rfl⟩ := List.mem_map.1 hr
    rfl
  have hnothing : ∃ more, x.resolved = x.resolved ++ more ∧ ∀ r ∈ more, r.fired = false :=
    ⟨[], (List.append_nil _).symm, fun r hr => by cases hr⟩
  cases next with
  | same => exact Or.inl hnothing
  | asked now delay owner =>
      left
      unfold Scheduler.schedule
      simp only
      split
      · refine ⟨[⟨x.nextId, false, now⟩], rfl, fun r hr => ?_⟩
        rw [List.mem_singleton.1 hr]
      · exact hnothing
  | cancelling owner =>
      left
      unfold Scheduler.cancelOwner
      split
      · exact hnothing
      · exact hnothing
  | turned turn =>
      cases turn with
      | worked work =>
          left
          obtain ⟨_, ⟨a, rest, _, rfl⟩ | ⟨owner, rest, _, rfl⟩⟩ := of_work? work
          · exact hnothing
          · exact ⟨_, rfl, hcancelled _ _⟩
      | fired fire => exact Or.inr ⟨_, fire⟩
      | halted halt =>
          left
          rw [of_halt? halt]
          exact ⟨_, rfl, hcancelled _ _⟩
      | shutdown => exact Or.inl hnothing

/-- The activation has come to the queue, and may have ended since. -/
def Placed (x : Scheduler) (a : Activation) : Prop := a ∈ x.queue ∨ a.id ∈ x.resolvedIds

theorem mem_resolvedIds_endAll {more : List Activation} {fired : Bool} {a : Activation}
    (h : x'.resolved = x.resolved ++ endAll more fired now) (ha : a ∈ more) :
    a.id ∈ x'.resolvedIds := by
  unfold resolvedIds
  rw [h, List.map_append, resolvedIds_endAll]
  exact List.mem_append_right _ (List.mem_map_of_mem ha)

/-- **Nothing leaves the queue without an end.** -/
theorem Placed.next {a : Activation} (h : x.Placed a) (next : x.Next x') : x'.Placed a := by
  rcases h with hqueue | hended
  · cases next with
    | same => exact Or.inl hqueue
    | asked now delay owner =>
        unfold Scheduler.schedule
        simp only
        split
        · exact Or.inl hqueue
        · exact Or.inl hqueue
    | cancelling owner =>
        unfold Scheduler.cancelOwner
        split
        · exact Or.inl hqueue
        · exact Or.inl hqueue
    | @turned x' now turn =>
        cases turn with
        | worked work =>
            obtain ⟨_, ⟨b, rest, _, rfl⟩ | ⟨owner, rest, _, rfl⟩⟩ := of_work? work
            · exact Or.inl ((enqueue_perm b x.queue).mem_iff.2 (List.mem_cons_of_mem b hqueue))
            · by_cases howner : a.owner = owner
              · exact Or.inr (mem_resolvedIds_endAll (x := x) rfl
                  (List.mem_filter.2 ⟨hqueue, by simp [howner]⟩))
              · exact Or.inl (List.mem_filter.2 ⟨hqueue, by simp [howner]⟩)
        | fired fire =>
            obtain ⟨_, rfl⟩ := of_fire? fire
            have hmem := hqueue
            rw [← List.takeWhile_append_dropWhile (p := fun a : Activation => decide (a.due ≤ now))
              (l := x.queue)] at hmem
            rcases List.mem_append.1 hmem with hdue | hlater
            · exact Or.inr (mem_resolvedIds_endAll (x := x) rfl hdue)
            · exact Or.inl hlater
        | halted halt =>
            rw [of_halt? halt]
            exact Or.inr (mem_resolvedIds_endAll (x := x) rfl (List.mem_append_left _ hqueue))
        | shutdown => exact Or.inl hqueue
  · exact Or.inr (next.grows.2 _ hended)

/-- Activations that have come to the queue are told apart by their numbers. -/
theorem Accounted.eq_of_id (h : x.Accounted) {a c : Activation} (placed : x.Placed a)
    (hc : c ∈ x.queue) (hid : c.id = a.id) : c = a := by
  have hnodup := (List.nodup_append.1 h.nodup).1
  unfold waiting at hnodup
  rw [List.map_append] at hnodup
  rcases placed with hqueue | hended
  · exact List.inj_on_of_nodup_map (List.nodup_append.1 hnodup).1 hc hqueue hid
  · refine absurd (hid ▸ hended) (h.disjoint ?_)
    exact List.mem_map_of_mem (List.mem_append_left _ hc)

/-- `a` has fired, and `b` had not ended before. -/
def FiresBefore (x : Scheduler) (a b : Activation) : Prop :=
  ∃ before time after, x.resolved = before ++ ⟨a.id, true, time⟩ :: after
    ∧ b.id ∉ before.map Resolution.id

/-- Nobody in the queue has fired. -/
theorem Accounted.not_firesBefore (h : x.Accounted) {a : Activation} (ha : a ∈ x.queue)
    (b : Activation) : ¬x.FiresBefore a b := by
  rintro ⟨before, time, after, hresolved, _⟩
  refine h.disjoint (List.mem_map_of_mem (List.mem_append_left _ ha)) ?_
  unfold resolvedIds
  rw [hresolved]
  simp

/-- What stands in two lists, one after the other, stands in the first or in the second. -/
theorem append_eq_append_cons {α : Type} {l more before after : List α} {r : α}
    (h : l ++ more = before ++ r :: after) :
    (∃ after', l = before ++ r :: after') ∨ ∃ before', before = l ++ before'
      ∧ more = before' ++ r :: after := by
  rcases List.append_eq_append_iff.1 h with ⟨m, hbefore, hmore⟩ | ⟨m, hl, hafter⟩
  · exact Or.inr ⟨m, hbefore, hmore⟩
  · cases m with
    | nil =>
        rw [List.append_nil] at hl
        exact Or.inr ⟨[], by rw [hl, List.append_nil], hafter.symm⟩
    | cons c m =>
        rw [List.cons_append, List.cons.injEq] at hafter
        exact Or.inl ⟨m, by rw [hl, hafter.1]⟩

/-- **Nobody fires before a smaller activation**: what comes first in the queue ends first. -/
theorem FiresBefore.of_next {a b : Activation} (h : x'.FiresBefore a b) (hbefore : b.before a = true)
    (ha : x.Placed a) (hb : x.Placed b) (accounted : x.Accounted) (sorted : x.Sorted)
    (next : x.Next x') : x.FiresBefore a b := by
  obtain ⟨before, time, after, heq, hfirst⟩ := h
  rcases next.resolved with ⟨more, hmore, hcancelled⟩ | ⟨now, fire⟩
  · rw [hmore] at heq
    rcases append_eq_append_cons heq with ⟨after', hold⟩ | ⟨before', _, hnew⟩
    · exact ⟨before, time, after', hold, hfirst⟩
    · -- what ends now is cancelled
      have hfired := hcancelled ⟨a.id, true, time⟩ (by rw [hnew]; simp)
      cases hfired
  · obtain ⟨_, rfl⟩ := of_fire? fire
    rcases append_eq_append_cons heq with ⟨after', hold⟩ | ⟨before', rfl, hnew⟩
    · exact ⟨before, time, after', hold, hfirst⟩
    · rw [List.map_append, List.mem_append, not_or] at hfirst
      -- `b` has not ended, so it stands in the queue `front ++ a :: rest`, and not in front
      have hqueue : b ∈ x.queue := hb.resolve_right hfirst.1
      obtain ⟨front, rest, hsplit, rfl, hcons⟩ := List.map_eq_append_iff.1 hnew
      obtain ⟨c, rest', rfl, hc, _⟩ := List.map_eq_cons_iff.1 hcons
      have hwhole := List.takeWhile_append_dropWhile (p := fun a : Activation =>
        decide (a.due ≤ now)) (l := x.queue)
      rw [hsplit, List.append_assoc] at hwhole
      have hca : c = a := by
        refine accounted.eq_of_id ha ?_ (congrArg Resolution.id hc)
        rw [← hwhole]
        simp
      subst hca
      unfold Sorted at sorted
      rw [← hwhole] at hqueue sorted
      rcases List.mem_append.1 hqueue with hfront | hrest
      · exact absurd (List.mem_map.2 ⟨_, List.mem_map_of_mem hfront, rfl⟩) hfirst.2
      · exfalso
        rcases List.mem_cons.1 hrest with rfl | hrest
        · exact Activation.not_before_of_before hbefore hbefore
        · have hcb := (List.pairwise_cons.1 (List.pairwise_append.1 sorted).2.1).1 b hrest
          exact Activation.not_before_of_before hbefore hcb

end Scheduler

/-! ## §3. Timetables. -/

/-- What can happen to a scheduler. -/
inductive SchedulerEvent where
  /-- Somebody asks for an activation after a delay. -/
  | schedule (delay : Nat) (owner : String)
  /-- Somebody asks for the cancellation of every activation of an owner. -/
  | cancelOwner (owner : String)
  | shutdown
  /-- Time passes. -/
  | wait (elapsed : Nat)
  /-- The scheduler works off its oldest request. -/
  | work
  /-- The scheduler fires what is due. -/
  | fire
  /-- The scheduler ends. -/
  | halt
  deriving DecidableEq, Repr

/-- A scheduler on a clock, with every activation that was ever asked for, by number. -/
structure Timetable where
  scheduler : Scheduler := {}
  now : Nat := 0
  asked : List Activation := []
  deriving DecidableEq, Repr, Inhabited

namespace Timetable

/-- Replace the scheduler. -/
def setScheduler (t : Timetable) (x : Scheduler) : Timetable := { t with scheduler := x }

/-- Ask for an activation, and note it down. -/
def schedule (t : Timetable) (delay : Nat) (owner : String) : Timetable :=
  let asked := t.scheduler.schedule t.now delay owner
  { t with
    scheduler := asked.2
    asked := t.asked ++ [⟨Scheduler.dueTime t.now delay, asked.1, owner⟩] }

/-- What an event does, where it is possible. -/
def step? (t : Timetable) : SchedulerEvent → Option Timetable
  | .schedule delay owner => some (t.schedule delay owner)
  | .cancelOwner owner => some (t.setScheduler (t.scheduler.cancelOwner owner))
  | .shutdown => some (t.setScheduler t.scheduler.shutdown)
  | .wait elapsed => some { t with now := t.now + elapsed }
  | .work => (t.scheduler.work? t.now).map t.setScheduler
  | .fire => (t.scheduler.fire? t.now).map t.setScheduler
  | .halt => (t.scheduler.halt? t.now).map t.setScheduler

/-- Events one after the other; none if one of them is not possible. -/
def run (t : Timetable) : List SchedulerEvent → Option Timetable
  | [] => some t
  | e :: rest => (t.step? e).bind fun t => t.run rest

variable {s t u : Timetable} {e : SchedulerEvent} {events : List SchedulerEvent}

/-- The next number is noted down. -/
theorem schedule_eq (t : Timetable) (delay : Nat) (owner : String) :
    t.schedule delay owner = ⟨(t.scheduler.schedule t.now delay owner).2, t.now,
      t.asked ++ [⟨Scheduler.dueTime t.now delay, t.scheduler.nextId, owner⟩]⟩ := by
  rw [← Scheduler.schedule_fst t.scheduler t.now delay owner]
  rfl

/-- **What every event keeps is kept.** -/
theorem keeps_of_run {I : Timetable → Prop} (run : t.run events = some u)
    (step : ∀ t t' e, I t → t.step? e = some t' → I t') (init : I t) : I u := by
  induction events generalizing t with
  | nil =>
      cases run
      exact init
  | cons e rest ih =>
      obtain ⟨t', htaken, hrest⟩ := Option.bind_eq_some_iff.1 run
      exact ih hrest (step t t' e init htaken)

/-- `t.Step e u`: what an event does, by who brings it about. -/
inductive Step (t : Timetable) : SchedulerEvent → Timetable → Prop where
  | scheduled (delay : Nat) (owner : String) : Step t (.schedule delay owner) (t.schedule delay owner)
  | cancelling (owner : String) :
      Step t (.cancelOwner owner) (t.setScheduler (t.scheduler.cancelOwner owner))
  | waited (elapsed : Nat) : Step t (.wait elapsed) { t with now := t.now + elapsed }
  /-- The scheduler takes a turn, or is asked to end. -/
  | turned {x : Scheduler} (e : SchedulerEvent) (turn : Scheduler.Turn t.now t.scheduler x) :
      Step t e (t.setScheduler x)

/-- **Every event is one of these.** -/
theorem Step.of_step? (h : t.step? e = some u) : t.Step e u := by
  cases e with
  | schedule delay owner =>
      cases h
      exact .scheduled delay owner
  | cancelOwner owner =>
      cases h
      exact .cancelling owner
  | shutdown =>
      cases h
      exact .turned _ .shutdown
  | wait elapsed =>
      cases h
      exact .waited elapsed
  | work =>
      obtain ⟨x, hwork, rfl⟩ := Option.map_eq_some_iff.1 h
      exact .turned _ (.worked hwork)
  | fire =>
      obtain ⟨x, hfire, rfl⟩ := Option.map_eq_some_iff.1 h
      exact .turned _ (.fired hfire)
  | halt =>
      obtain ⟨x, hhalt, rfl⟩ := Option.map_eq_some_iff.1 h
      exact .turned _ (.halted hhalt)

/-- Every event is a step of the scheduler, or leaves it alone. -/
theorem Step.next (step : t.Step e u) : t.scheduler.Next u.scheduler := by
  cases step with
  | scheduled delay owner => exact .asked _ _ _
  | cancelling owner => exact .cancelling owner
  | waited elapsed => exact .same
  | turned e turn => exact .turned turn

/-- What was asked for stays on the list. -/
theorem Step.asked_prefix (step : t.Step e u) : t.asked <+: u.asked := by
  cases step with
  | scheduled delay owner => exact List.prefix_append _ _
  | cancelling owner => exact List.prefix_rfl
  | waited elapsed => exact List.prefix_rfl
  | turned e turn => exact List.prefix_rfl

/-- Every end has its reason. -/
theorem Step.ending (step : t.Step e u) {id : Nat} {ended : Bool}
    (hended : u.scheduler.outcome? id = some ended) :
    t.scheduler.outcome? id = some ended
      ∨ Scheduler.Ending t.now t.scheduler u.scheduler id ended := by
  cases step with
  | scheduled delay owner => exact Scheduler.ending_schedule hended
  | cancelling owner =>
      exact Or.inl ((Scheduler.outcome?_cancelOwner t.scheduler owner).symm.trans hended)
  | waited elapsed => exact Or.inl hended
  | turned e turn => exact turn.ending hended

/-! ## §4. What holds of every timetable. -/

/-- Every activation is accounted for: its number, its place, and how it ended. -/
structure Orderly (t : Timetable) : Prop where
  accounted : t.scheduler.Accounted
  sorted : t.scheduler.Sorted
  numbers : t.asked.map Activation.id = List.range t.scheduler.nextId
  known : ∀ a ∈ t.scheduler.queue, a ∈ t.asked
  /-- The first `n` requests have been worked off, and the others wait. -/
  requests : ∃ n ≤ t.asked.length, Scheduler.asked t.scheduler.commands = t.asked.drop n
  punctual : ∀ r ∈ t.scheduler.resolved, r.time ≤ t.now
    ∧ ∃ a ∈ t.asked, a.id = r.id ∧ (r.fired = true → a.due ≤ r.time)

theorem orderly_empty : Orderly {} where
  accounted := Scheduler.accounted_empty
  sorted := List.Pairwise.nil
  numbers := rfl
  known := fun a ha => by cases ha
  requests := ⟨0, Nat.le_refl 0, rfl⟩
  punctual := fun r hr => by cases hr

namespace Orderly

/-- Whoever waits was asked for. -/
theorem mem_asked (h : t.Orderly) {a : Activation} (ha : a ∈ t.scheduler.waiting) :
    a ∈ t.asked := by
  rcases List.mem_append.1 ha with hqueue | hrequest
  · exact h.known a hqueue
  · obtain ⟨n, _, hrequests⟩ := h.requests
    rw [hrequests] at hrequest
    exact List.mem_of_mem_drop hrequest

/-- The next number belongs to the next activation. -/
theorem length_asked (h : t.Orderly) : t.asked.length = t.scheduler.nextId := by
  rw [← List.length_map (f := Activation.id), h.numbers, List.length_range]

/-- Some activations that waited end at the same time, in the same way. -/
theorem punctual_endAll (h : t.Orderly) {more : List Activation} {fired : Bool}
    (hmore : ∀ a ∈ more, a ∈ t.scheduler.waiting) (hdue : fired = true → ∀ a ∈ more, a.due ≤ t.now) :
    ∀ r ∈ t.scheduler.resolved ++ Scheduler.endAll more fired t.now, r.time ≤ t.now
      ∧ ∃ a ∈ t.asked, a.id = r.id ∧ (r.fired = true → a.due ≤ r.time) := by
  intro r hr
  rcases List.mem_append.1 hr with hold | hnew
  · exact h.punctual r hold
  · obtain ⟨a, ha, rfl⟩ := List.mem_map.1 hnew
    exact ⟨Nat.le_refl _, a, h.mem_asked (hmore a ha), rfl, fun hfired => hdue hfired a ha⟩

/-- **A turn of the scheduler.** -/
theorem turn (h : t.Orderly) {x : Scheduler} (turn : Scheduler.Turn t.now t.scheduler x) :
    (t.setScheduler x).Orderly := by
  have hnext : t.scheduler.Next x := .turned turn
  refine ⟨h.accounted.turn turn, h.sorted.next h.accounted hnext, ?_, ?_, ?_, ?_⟩
  · show t.asked.map Activation.id = List.range x.nextId
    rw [h.numbers]
    cases turn with
    | worked work =>
        obtain ⟨_, ⟨a, rest, _, rfl⟩ | ⟨owner, rest, _, rfl⟩⟩ := Scheduler.of_work? work
        · rfl
        · rfl
    | fired fire =>
        obtain ⟨_, rfl⟩ := Scheduler.of_fire? fire
        rfl
    | halted halt => rw [Scheduler.of_halt? halt]
    | shutdown => rfl
  · exact fun a ha => h.mem_asked (turn.waiting (List.mem_append_left _ ha))
  · obtain ⟨n, hn, hrequests⟩ := h.requests
    show ∃ n ≤ t.asked.length, Scheduler.asked x.commands = t.asked.drop n
    cases turn with
    | worked work =>
        obtain ⟨_, ⟨a, rest, hcommands, rfl⟩ | ⟨owner, rest, hcommands, rfl⟩⟩ :=
          Scheduler.of_work? work
        · -- the request that is worked off is the first one that waited
          rw [hcommands, Scheduler.asked_schedule] at hrequests
          have hlt : n < t.asked.length := by
            by_contra hge
            rw [List.drop_eq_nil_of_le (Nat.le_of_not_lt hge)] at hrequests
            cases hrequests
          refine ⟨n + 1, hlt, ?_⟩
          rw [← List.drop_drop, ← hrequests]
          rfl
        · rw [hcommands, Scheduler.asked_cancelOwner] at hrequests
          exact ⟨n, hn, hrequests⟩
    | fired fire =>
        obtain ⟨_, rfl⟩ := Scheduler.of_fire? fire
        exact ⟨n, hn, hrequests⟩
    | halted halt =>
        rw [Scheduler.of_halt? halt]
        exact ⟨t.asked.length, Nat.le_refl _, (List.drop_length (l := t.asked)).symm⟩
    | shutdown => exact ⟨n, hn, hrequests⟩
  · show ∀ r ∈ x.resolved, _
    cases turn with
    | worked work =>
        obtain ⟨_, ⟨a, rest, _, rfl⟩ | ⟨owner, rest, _, rfl⟩⟩ := Scheduler.of_work? work
        · exact h.punctual
        · exact h.punctual_endAll (fun a ha => List.mem_append_left _ (List.mem_filter.1 ha).1)
            fun hfired => by cases hfired
    | fired fire =>
        obtain ⟨_, rfl⟩ := Scheduler.of_fire? fire
        refine h.punctual_endAll (fun a ha => ?_) fun _ a ha => ?_
        · exact List.mem_append_left _ ((List.takeWhile_prefix _).subset ha)
        · exact of_decide_eq_true (List.all_eq_true.1 List.all_takeWhile a ha)
    | halted halt =>
        rw [Scheduler.of_halt? halt]
        exact h.punctual_endAll (fun a ha => ha) fun hfired => by cases hfired
    | shutdown => exact h.punctual

/-- **Another activation is asked for.** -/
theorem schedule (h : t.Orderly) (delay : Nat) (owner : String) :
    (t.schedule delay owner).Orderly := by
  have haccounted : (t.scheduler.schedule t.now delay owner).2.Accounted :=
    h.accounted.schedule delay owner
  have hsorted := h.sorted.next h.accounted (.asked t.now delay owner)
  have hold : ∀ r ∈ t.scheduler.resolved, r.time ≤ t.now ∧ ∃ a ∈ t.asked
      ++ [⟨Scheduler.dueTime t.now delay, t.scheduler.nextId, owner⟩], a.id = r.id
        ∧ (r.fired = true → a.due ≤ r.time) := by
    intro r hr
    obtain ⟨htime, a, ha, hrest⟩ := h.punctual r hr
    exact ⟨htime, a, List.mem_append_left _ ha, hrest⟩
  have hnumbers : List.map Activation.id (t.asked
      ++ [⟨Scheduler.dueTime t.now delay, t.scheduler.nextId, owner⟩])
        = List.range (t.scheduler.nextId + 1) := by
    rw [List.map_append, h.numbers, List.range_succ]
    rfl
  have hknown : ∀ a ∈ t.scheduler.queue, a ∈ t.asked
      ++ [⟨Scheduler.dueTime t.now delay, t.scheduler.nextId, owner⟩] :=
    fun a ha => List.mem_append_left _ (h.known a ha)
  rw [schedule_eq]
  cases hhalted : t.scheduler.halted with
  | true =>
      rw [Scheduler.schedule_of_halted hhalted] at haccounted hsorted ⊢
      refine ⟨haccounted, hsorted, hnumbers, hknown, ⟨t.asked.length + 1, by simp, ?_⟩, ?_⟩
      · -- nothing waits after the end, so all requests count as worked off
        rw [List.drop_eq_nil_of_le (by simp)]
        exact (List.append_eq_nil_iff.1 (h.accounted.idle hhalted)).2
      · intro r hr
        rcases List.mem_append.1 hr with hr | hr
        · exact hold r hr
        · rw [List.mem_singleton.1 hr]
          exact ⟨Nat.le_refl _, _, List.mem_append_right _ (List.mem_singleton_self _), rfl,
            fun hfired => by cases hfired⟩
  | false =>
      rw [Scheduler.schedule_of_running hhalted] at haccounted hsorted ⊢
      obtain ⟨n, hn, hrequests⟩ := h.requests
      refine ⟨haccounted, hsorted, hnumbers, hknown, ⟨n, ?_, ?_⟩, hold⟩
      · rw [List.length_append]
        exact Nat.le_add_right_of_le hn
      · show Scheduler.asked (_ ++ [_]) = _
        rw [Scheduler.asked_append, hrequests, List.drop_append_of_le_length hn]
        rfl

/-- A request to cancel waits with the others. -/
theorem cancelOwner (h : t.Orderly) (owner : String) :
    (t.setScheduler (t.scheduler.cancelOwner owner)).Orderly := by
  obtain ⟨n, hn, hrequests⟩ := h.requests
  have haccounted := h.accounted.cancelOwner owner
  have hsorted := h.sorted.next h.accounted (.cancelling owner)
  unfold setScheduler
  unfold Scheduler.cancelOwner at haccounted hsorted ⊢
  split at haccounted
  · rename_i hhalted
    rw [if_pos hhalted]
    exact h
  · rename_i hrunning
    rw [if_neg hrunning] at hsorted ⊢
    refine ⟨haccounted, hsorted, h.numbers, h.known, ⟨n, hn, ?_⟩, h.punctual⟩
    show Scheduler.asked (t.scheduler.commands ++ [.cancelOwner owner]) = _
    rw [Scheduler.asked_append, hrequests]
    exact List.append_nil _

/-- **Whatever happens.** -/
theorem step (h : t.Orderly) (step : t.Step e u) : u.Orderly := by
  cases step with
  | scheduled delay owner => exact h.schedule delay owner
  | cancelling owner => exact h.cancelOwner owner
  | waited elapsed =>
      refine ⟨h.accounted, h.sorted, h.numbers, h.known, h.requests, fun r hr => ?_⟩
      obtain ⟨htime, hrest⟩ := h.punctual r hr
      exact ⟨Nat.le_trans htime (Nat.le_add_right _ _), hrest⟩
  | turned e turn => exact h.turn turn

/-- **In any order.** -/
theorem run (h : t.Orderly) (run : t.run events = some u) : u.Orderly :=
  keeps_of_run run (fun _ _ _ h taken => h.step (.of_step? taken)) h

end Orderly

/-! ## §5. Runs. -/

namespace Orderly

/-- Activations that were asked for are told apart by their numbers. -/
theorem eq_of_id (h : t.Orderly) {a b : Activation} (ha : a ∈ t.asked) (hb : b ∈ t.asked)
    (hid : a.id = b.id) : a = b := by
  refine List.inj_on_of_nodup_map ?_ ha hb hid
  rw [h.numbers]
  exact List.nodup_range

/-- Whatever was asked for waits or has ended. -/
theorem waits_or_ended (h : t.Orderly) {a : Activation} (ha : a ∈ t.asked) :
    a ∈ t.scheduler.waiting ∨ a.id ∈ t.scheduler.resolvedIds := by
  have hnumber : a.id < t.scheduler.nextId := by
    rw [← List.mem_range, ← h.numbers]
    exact List.mem_map_of_mem ha
  rcases h.accounted.mem_iff.1 hnumber with hwaits | hended
  · obtain ⟨b, hb, hid⟩ := List.mem_map.1 hwaits
    rw [← h.eq_of_id (h.mem_asked hb) ha hid]
    exact Or.inl hb
  · exact Or.inr hended

/-- **Of two activations in the queue the smaller one fires first**, if the greater one fires
before the other has ended. -/
theorem before_of_firesBefore (h : s.Orderly) {a b : Activation} (ha : a ∈ s.scheduler.queue)
    (hb : b ∈ s.scheduler.queue) (hne : a ≠ b) (run : s.run events = some t)
    (fires : t.scheduler.FiresBefore a b) : a.before b = true := by
  by_contra hnot
  have hid : a.id ≠ b.id := fun hid => hne (h.eq_of_id (h.known a ha) (h.known b hb) hid)
  have hbefore := Activation.before_of_not hnot hid
  have hkept : t.Orderly ∧ t.scheduler.Placed a ∧ t.scheduler.Placed b
      ∧ ¬t.scheduler.FiresBefore a b := by
    refine keeps_of_run (I := fun t => t.Orderly ∧ t.scheduler.Placed a ∧ t.scheduler.Placed b
      ∧ ¬t.scheduler.FiresBefore a b) run ?_
      ⟨h, Or.inl ha, Or.inl hb, h.accounted.not_firesBefore ha b⟩
    rintro t u e ⟨horderly, hplaced, hplaced', hyields⟩ taken
    have step := Step.of_step? taken
    have next := step.next
    exact ⟨horderly.step step, hplaced.next next, hplaced'.next next, fun hfires =>
      hyields (hfires.of_next hbefore hplaced hplaced' horderly.accounted horderly.sorted next)⟩
  exact hkept.2.2.2 fires

/-- **A request to cancel reaches everything that the owner had asked for.** -/
theorem ended_of_cancelOwner (h : s.Orderly) {owner : String}
    (run : s.run (.cancelOwner owner :: events) = some t) (worked : t.scheduler.commands = [])
    {a : Activation} (ha : a ∈ s.asked) (howner : a.owner = owner) :
    a.id ∈ t.scheduler.resolvedIds := by
  obtain ⟨s', htaken, hrun⟩ := Option.bind_eq_some_iff.1 run
  cases htaken
  have hkept : t.Orderly ∧ a ∈ t.asked ∧ t.scheduler.Clears owner [a.id] := by
    refine keeps_of_run (I := fun t => t.Orderly ∧ a ∈ t.asked ∧ t.scheduler.Clears owner [a.id])
      hrun ?_ ⟨h.cancelOwner owner, ha,
        Scheduler.clears_cancelOwner h.accounted owner [a.id]⟩
    rintro t u e ⟨horderly, hasked, hclears⟩ taken
    have step := Step.of_step? taken
    refine ⟨horderly.step step, step.asked_prefix.subset hasked, hclears.next ?_ ?_ step.next⟩
    · intro id hid
      rw [List.mem_singleton.1 hid, ← List.mem_range, ← horderly.numbers]
      exact List.mem_map_of_mem hasked
    · intro b hb hid
      rw [horderly.eq_of_id (horderly.mem_asked hb) hasked (List.mem_singleton.1 hid), howner]
  obtain ⟨horderly, hasked, hclears⟩ := hkept
  rcases horderly.waits_or_ended hasked with hwaits | hended
  · exact absurd (List.mem_singleton_self a.id) (hclears.of_idle worked a hwaits)
  · exact hended

/-- **The accounts balance**: what has been worked off is pending, has fired, or was cancelled. -/
theorem balance (h : t.Orderly) : ∃ n ≤ t.asked.length,
    Scheduler.asked t.scheduler.commands = t.asked.drop n
      ∧ t.scheduler.pending + t.scheduler.resolved.countP Resolution.fired
        + t.scheduler.resolved.countP (fun r => !r.fired) = n := by
  obtain ⟨n, hn, hrequests⟩ := h.requests
  refine ⟨n, hn, hrequests, ?_⟩
  have hplaces := h.accounted.places.length_eq
  have hends := List.length_eq_countP_add_countP Resolution.fired (l := t.scheduler.resolved)
  have hasked := h.length_asked
  have hwaiting := congrArg List.length hrequests
  unfold Scheduler.waiting Scheduler.resolvedIds at hplaces
  simp only [List.map_append, List.length_append, List.length_map, List.length_range] at hplaces
  rw [List.length_drop] at hwaiting
  simp only [Bool.not_eq_true, Bool.decide_eq_false] at hends
  unfold Scheduler.pending
  omega

end Orderly

/-- **The driver works off a request to cancel.** -/
theorem step?_work_of_cancelOwner {owner : String} {rest : List SchedulerCommand}
    (running : s.scheduler.halted = false) (request : s.scheduler.commands = .cancelOwner owner :: rest) :
    s.step? .work = some (s.setScheduler { s.scheduler with
      commands := rest
      queue := s.scheduler.queue.filter fun a => !(a.owner == owner)
      resolved := s.scheduler.resolved
        ++ Scheduler.endAll (s.scheduler.queue.filter fun a => a.owner == owner) false s.now }) := by
  simp only [step?, Scheduler.work?]
  rw [if_neg (by rw [running]; exact Bool.false_ne_true)]
  simp only [request, List.partition_eq_filter_filter]
  rfl

/-- **The driver ends when it is asked to.** -/
theorem step?_halt_of_stopping (stopping : s.scheduler.stopping = true)
    (running : s.scheduler.halted = false) :
    s.step? .halt = some (s.setScheduler { s.scheduler with
      halted := true
      commands := []
      queue := []
      resolved := s.scheduler.resolved ++ Scheduler.endAll s.scheduler.waiting false s.now }) := by
  simp only [step?, Scheduler.halt?]
  rw [if_pos (by rw [stopping, running]; rfl)]
  rfl

/-- **Every activation ends at most once, in order, and for a reason.**

Requests and a request to end reach the driver at any time; `work`, `fire` and `halt` are its turns,
and it may take whichever is possible. -/
theorem activations_end_once_and_in_order (reached : ({} : Timetable).run events = some s) :
    -- nothing ends twice; whatever ended was asked for, and was due if it fired
    s.scheduler.resolvedIds.Nodup
    ∧ (∀ r ∈ s.scheduler.resolved, r.time ≤ s.now
        ∧ ∃ a ∈ s.asked, a.id = r.id ∧ (r.fired = true → a.due ≤ r.time))
    -- of two that are in the queue at once, the one that fires first is the smaller one
    ∧ (∀ a ∈ s.scheduler.queue, ∀ b ∈ s.scheduler.queue, a ≠ b → ∀ later t,
        s.run later = some t → t.scheduler.FiresBefore a b →
          a.due < b.due ∨ (a.due = b.due ∧ a.id < b.id))
    -- a request to cancel ends what the owner has in the queue, and nothing else
    ∧ (∀ owner rest, s.scheduler.halted = false →
        s.scheduler.commands = .cancelOwner owner :: rest →
          ∃ t, s.step? .work = some t
            ∧ t.scheduler.queue = s.scheduler.queue.filter (fun a => !(a.owner == owner))
            ∧ t.scheduler.resolved = s.scheduler.resolved
              ++ Scheduler.endAll (s.scheduler.queue.filter fun a => a.owner == owner) false s.now)
    ∧ (∀ owner later t, s.run (.cancelOwner owner :: later) = some t →
        t.scheduler.commands = [] → ∀ a ∈ s.asked, a.owner = owner →
          a.id ∈ t.scheduler.resolvedIds)
    ∧ (∀ e t id, s.step? e = some t → t.scheduler.outcome? id = some false →
        s.scheduler.outcome? id = some false ∨ t.scheduler.halted = true
          ∨ ∃ a ∈ s.scheduler.queue, a.id = id
            ∧ ∃ rest, s.scheduler.commands = .cancelOwner a.owner :: rest)
    -- at the end all the rest is cancelled
    ∧ (s.scheduler.stopping = true → s.scheduler.halted = false →
        ∃ t, s.step? .halt = some t ∧ t.scheduler.queue = [] ∧ t.scheduler.commands = []
          ∧ t.scheduler.resolved = s.scheduler.resolved
            ++ Scheduler.endAll s.scheduler.waiting false s.now)
    ∧ (s.scheduler.halted = true → ∀ a ∈ s.asked, a.id ∈ s.scheduler.resolvedIds)
    -- the first `n` requests have been worked off, and each of them is pending, has fired or was
    -- cancelled; a question for their number waits its turn like a request
    ∧ ∃ n ≤ s.asked.length, Scheduler.asked s.scheduler.commands = s.asked.drop n
        ∧ s.scheduler.pending + s.scheduler.resolved.countP Resolution.fired
          + s.scheduler.resolved.countP (fun r => !r.fired) = n := by
  have horderly := orderly_empty.run reached
  refine ⟨(List.nodup_append.1 horderly.accounted.nodup).2.1, horderly.punctual, ?_, ?_, ?_, ?_, ?_,
    ?_, horderly.balance⟩
  · intro a ha b hb hne later t run fires
    exact (Activation.before_iff a b).1 (horderly.before_of_firesBefore ha hb hne run fires)
  · intro owner rest running request
    exact ⟨_, step?_work_of_cancelOwner running request, rfl, rfl⟩
  · intro owner later t run worked a ha howner
    exact horderly.ended_of_cancelOwner run worked ha howner
  · intro e t id taken hended
    rcases (Step.of_step? taken).ending hended with hbefore | hending
    · exact Or.inl hbefore
    · cases hending with
      | cancelled number queued request => exact Or.inr (Or.inr ⟨_, queued, number, _, request⟩)
      | halted ended => exact Or.inr (Or.inl ended)
  · intro stopping running
    exact ⟨_, step?_halt_of_stopping stopping running, rfl, rfl, rfl⟩
  · intro hhalted a ha
    rcases horderly.waits_or_ended ha with hwaits | hended
    · rw [horderly.accounted.idle hhalted] at hwaits
      cases hwaits
    · exact hended

end Timetable

namespace Orders

/-- Two owners ask for activations at the same time, and one for an earlier one. -/
def appointments : List SchedulerEvent :=
  [.schedule 50 "orders", .schedule 50 "payments", .schedule 10 "orders", .work, .work, .work]

/-- The earlier one fires, one owner gives up, and the other one fires in time. -/
def keptAppointments : List SchedulerEvent :=
  [.wait 10, .fire, .cancelOwner "payments", .work, .wait 40, .fire, .schedule 5 "orders",
    .shutdown, .halt]

/-- The timetable when all three are in the queue. -/
def arranged : Timetable := (({} : Timetable).run appointments).getD {}

/-- The timetable when everything has ended. -/
def settled : Timetable := (arranged.run keptAppointments).getD {}

end Orders

open Orders in
/-- The earliest activation fires first; the others are called off, fire in time, or come too late. -/
theorem Timetable.activations_end_once_and_in_order_of_two_owners :
    settled.scheduler.resolved = [⟨2, true, 10⟩, ⟨1, false, 10⟩, ⟨0, true, 50⟩, ⟨3, false, 50⟩]
      ∧ settled.scheduler.resolvedIds.Nodup
      ∧ ((10 : Nat) < 50 ∨ ((10 : Nat) = 50 ∧ (2 : Nat) < 0)) := by
  have hreached : ({} : Timetable).run appointments = some arranged := by decide +kernel
  have hlater : arranged.run keptAppointments = some settled := by decide +kernel
  have hboth : ({} : Timetable).run (appointments ++ keptAppointments) = some settled := by
    decide +kernel
  have hended : settled.scheduler.resolved
      = [⟨2, true, 10⟩, ⟨1, false, 10⟩, ⟨0, true, 50⟩, ⟨3, false, 50⟩] := by decide +kernel
  have hfires : settled.scheduler.FiresBefore ⟨10, 2, "orders"⟩ ⟨50, 0, "orders"⟩ :=
    ⟨[], 10, _, hended, by simp⟩
  refine ⟨hended, (activations_end_once_and_in_order hboth).1, ?_⟩
  exact (activations_end_once_and_in_order hreached).2.2.1 ⟨10, 2, "orders"⟩ (by decide +kernel)
    ⟨50, 0, "orders"⟩ (by decide +kernel) (by decide) keptAppointments settled hlater hfires

end Redelivery
