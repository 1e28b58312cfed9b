/-
  Redelivery.Proofs.System.Stopping
  ─────────────────────────────────
  **What a consumer that was stopped leaves behind.**

  The second step of a stop asks the scheduler to cancel whatever the
  consumer owns.  That reaches every activation that the consumer had asked
  for before.  It does not reach what the consumer asks for later, and a
  consumer that was told to stop may still take a record that is ready:

      left behind  =  the last activation asked for after the request,
                      while it has not ended
-/
import Redelivery.Proofs.Bus.Cancellation
import Redelivery.Proofs.Conservation.Endpoint
import Redelivery.Proofs.System.Paths

namespace Redelivery

/-- Only an end has a verdict. -/
theorem Consumer.isFinal_of_verdict? {c : Consumer} {verdict : Except Error Unit}
    (h : c.verdict? = some verdict) : c.phase.isFinal = true := by
  unfold verdict? at h
  split at h
  · rename_i hphase
    rw [hphase]
    rfl
  · rename_i hphase
    rw [hphase]
    rfl
  · cases h

namespace System

variable {s s' t : System} {i : Nat} {c : Consumer} {a : Action} {ids : List Nat}

/-! ## §1. What a consumer takes and asks for. -/

/-- What is seen at the steps of a run, in order. -/
def trace {α : Type} (look : System → System → Option α) (s : System) : List Action → List α
  | [] => []
  | a :: rest =>
      match s.step? a with
      | some t => (look s t).toList ++ t.trace look rest
      | none => []

/-- The phase of a consumer. -/
def phase? (s : System) (i : Nat) : Option Phase := s.consumers[i]?.map Consumer.phase

theorem phase?_of_getElem? (here : s.consumers[i]? = some c) : s.phase? i = some c.phase := by
  unfold phase?
  rw [here]
  rfl

/-- The record that a consumer has received and not begun with. -/
def inHand? (s : System) (i : Nat) : Option Record :=
  match s.phase? i with
  | some (.received r) => some r
  | _ => none

/-- The record that a consumer takes from its source by a step. -/
def takes? (i : Nat) (s t : System) : Option Record :=
  match s.phase? i with
  | some (.polling _) => t.inHand? i
  | _ => none

/-- The number of the activation that a consumer asks for by a step. -/
def asks? (i : Nat) (s t : System) : Option Nat :=
  match s.phase? i, t.phase? i with
  | some (.received _), some (.holding _ id) => some id
  | _, _ => none

/-- The records that a consumer takes in a run. -/
def taken (s : System) (i : Nat) (actions : List Action) : List Record := s.trace (takes? i) actions

/-- The numbers of the activations that a consumer asks for in a run. -/
def asked (s : System) (i : Nat) (actions : List Action) : List Nat := s.trace (asks? i) actions

/-- Those of some activations that are in the queue of the scheduler. -/
def pendingOf (s : System) (ids : List Nat) : List Nat :=
  (s.scheduler.queue.map Activation.id).filter fun id => ids.contains id

theorem trace_cons {α : Type} (look : System → System → Option α) (h : s.step? a = some t)
    (rest : List Action) : s.trace look (a :: rest) = (look s t).toList ++ t.trace look rest := by
  show (match s.step? a with
    | some t => (look s t).toList ++ t.trace look rest
    | none => []) = _
  rw [h]

theorem trace_append {α : Type} (look : System → System → Option α) {actions : List Action}
    (h : s.run actions = some t) (later : List Action) :
    s.trace look (actions ++ later) = s.trace look actions ++ t.trace look later := by
  induction actions generalizing s with
  | nil =>
      cases h
      rfl
  | cons a rest ih =>
      obtain ⟨u, hu, hrest⟩ := of_run_cons h
      rw [List.cons_append, trace_cons look hu, trace_cons look hu, ih hrest, List.append_assoc]

/-! ## §2. Advances to and from a delayed record. -/

section Advance

variable {b : Broker} {scheduler : Scheduler} {c' : Consumer} {entries : List JournalEntry}
  {r : Record}

/-- **A consumer that comes to hold a record has asked for its activation.** -/
theorem Advance.of_holding {id : Nat} (advance : s.Advance i c a b scheduler c' entries)
    (phase' : c'.phase = .holding r id) :
    c.phase = .received r ∧ id = s.scheduler.nextId ∧ ∃ due, r.due? = some due
      ∧ scheduler = (s.scheduler.schedule s.now (Scheduler.delayUntil s.clock.wall due) c.owner).2 := by
  cases advance with
  | asked choice phase delayed =>
      cases phase'
      exact ⟨phase, rfl, _, delayed, rfl⟩
  | @polled since polled b σ choice phase gives => cases polled <;> cases phase'
  | concluded choice phase => rcases Consumer.of_afterDelivery phase' with h | ⟨_, h⟩ <;> cases h
  | _ => cases phase'

/-- **A consumer that has a record in hand has just polled.** -/
theorem Advance.of_received (advance : s.Advance i c a b scheduler c' entries)
    (phase' : c'.phase = .received r) : ∃ since, c.phase = .polling since := by
  cases advance with
  | polled choice phase gives => exact ⟨_, phase⟩
  | concluded choice phase => rcases Consumer.of_afterDelivery phase' with h | ⟨_, h⟩ <;> cases h
  | _ => cases phase'

/-- **A consumer holds its record until the activation has ended, or ends itself.** -/
theorem Advance.from_holding {id : Nat} (phase : c.phase = .holding r id)
    (advance : s.Advance i c a b scheduler c' entries) :
    c'.phase.isFinal = true ∨ id ∈ s.scheduler.resolvedIds := by
  cases advance with
  | noticed told waits => exact Or.inl rfl
  | cancelled choice hphase outcome => exact Or.inl rfl
  | fired choice hphase outcome =>
      rw [phase] at hphase
      cases hphase
      right
      by_contra hnot
      rw [Scheduler.outcome?_eq_none.2 hnot] at outcome
      cases outcome
  | _ => simp_all

/-- A consumer that has ended does not advance. -/
theorem Advance.not_final (advance : s.Advance i c a b scheduler c' entries) :
    c.phase.isFinal = false := by
  cases advance with
  | noticed told waits =>
      unfold Phase.waits at waits
      split at waits
      all_goals first | (rename_i hphase; rw [hphase]; rfl) | cases waits
  | moved phase move left plain uncommitted =>
      rw [phase]
      rfl
  | _ => simp_all [Phase.isFinal]

/-- A consumer that advances leaves the scheduler alone, or asks it for an activation. -/
theorem Advance.next (advance : s.Advance i c a b scheduler c' entries) :
    s.scheduler.Next scheduler := by
  cases advance with
  | asked choice phase delayed => exact .asked _ _ _
  | _ => exact .same

end Advance

/-- A consumer that has ended does nothing more. -/
theorem step?_of_isFinal (here : s.consumers[i]? = some c) (final : c.phase.isFinal = true)
    (choice : Choice) : s.step? (.proceed i choice) = none := by
  refine Option.eq_none_iff_forall_ne_some.2 fun s' taken => ?_
  obtain ⟨b, x, c', entries, advance, _⟩ := Advances.of_proceed here taken
  rw [advance.not_final] at final
  cases final

/-- **What a step does to the scheduler.** -/
theorem Step.next (step : Step s a s') : s.scheduler.Next s'.scheduler := by
  cases step with
  | advanced here advance => exact advance.next
  | hired l handler group source action consumers scheduler journal registry =>
      rw [scheduler]
      exact .same
  | told a here listener handler group phase stopping => exact .same
  | cancelling here => exact .cancelling _
  | scheduled a turn => exact .turned turn
  | registered context => exact .same
  | outside consumers scheduler journal registry =>
      rw [scheduler]
      exact .same

/-- A consumer that is started polls. -/
theorem Step.of_none (step : Step s a s') (here : s.consumers[i]? = none) :
    s'.phase? i = none ∨ ∃ since, s'.phase? i = some (.polling since) := by
  have hsame : s'.consumers.length = s.consumers.length → s'.phase? i = none := by
    intro hlength
    rw [List.getElem?_eq_none_iff] at here
    unfold phase?
    rw [List.getElem?_eq_none (by omega)]
    rfl
  cases step with
  | advanced hj advance => exact Or.inl (hsame (by unfold put; rw [List.length_set]))
  | hired l handler group source action consumers scheduler journal registry =>
      rw [List.getElem?_eq_none_iff] at here
      unfold phase?
      rw [consumers, List.getElem?_append_right here]
      cases i - s.consumers.length with
      | zero => exact Or.inr ⟨_, rfl⟩
      | succ k => exact Or.inl rfl
  | told a hj listener handler group phase stopping => exact Or.inl (hsame List.length_set)
  | cancelling hj => exact Or.inl (hsame rfl)
  | scheduled a turn => exact Or.inl (hsame rfl)
  | registered context => exact Or.inl (hsame rfl)
  | outside consumers scheduler journal registry =>
      exact Or.inl (hsame (congrArg List.length consumers))

/-- **Whoever is in a phase after a step** was there before the step, or has just been started. -/
theorem Step.of_phase? {p : Phase} (step : Step s a s') (after : s'.phase? i = some p) :
    (∃ since, p = .polling since)
      ∨ ∃ c c', s.consumers[i]? = some c ∧ s'.consumers[i]? = some c' ∧ s.Goes i a s' c c'
        ∧ c'.phase = p := by
  cases here : s.consumers[i]? with
  | none =>
      rcases step.of_none here with hnone | ⟨since, hpolling⟩
      · rw [hnone] at after
        cases after
      · rw [hpolling] at after
        exact Or.inl ⟨since, (Option.some.inj after).symm⟩
  | some c =>
      obtain ⟨c', here', goes⟩ := step.consumer here
      rw [phase?_of_getElem? here'] at after
      exact Or.inr ⟨c, c', rfl, here', goes, Option.some.inj after⟩

/-! ## §3. Ends. -/

/-- **Who has ended stays so.** -/
theorem Step.isFinal (step : Step s a s') (here : s.consumers[i]? = some c)
    (ended : c.phase.isFinal = true) :
    ∃ c', s'.consumers[i]? = some c' ∧ c'.phase.isFinal = true := by
  obtain ⟨c', here', goes⟩ := step.consumer here
  refine ⟨c', here', ?_⟩
  rcases goes.phase with hsame | ⟨b, entries, advance⟩
  · rw [hsame, ended]
  · rw [advance.not_final] at ended
    cases ended

/-- **Whoever was awaited has ended.** -/
theorem isFinal_of_collect (taken : s.step? (.collect i) = some s') :
    ∃ c, s'.consumers[i]? = some c ∧ c.phase.isFinal = true := by
  cases Effect.of_step taken with
  | collected here handle ended =>
      exact (Step.of_step taken).isFinal here (Consumer.isFinal_of_verdict? ended)
  | advanced here advance => cases advance

/-! ## §4. Records taken and activations asked for. -/

/-- **A consumer that asks for an activation** has a record in hand, and will hold it. -/
theorem Step.of_asks {id : Nat} (step : Step s a s') (hasks : asks? i s s' = some id) :
    id = s.scheduler.nextId ∧ ∃ c c' r, s.consumers[i]? = some c ∧ c.phase = .received r
      ∧ s'.consumers[i]? = some c' ∧ c'.owner = c.owner ∧ c'.phase = .holding r id
      ∧ ∃ due, r.due? = some due ∧ s'.scheduler
        = (s.scheduler.schedule s.now (Scheduler.delayUntil s.clock.wall due) c.owner).2 := by
  unfold asks? at hasks
  split at hasks
  · rename_i r r' id' hbefore hafter
    cases hasks
    obtain ⟨c, here, phase⟩ := Option.map_eq_some_iff.1 hbefore
    obtain ⟨c', here', goes⟩ := step.consumer here
    have phase' : c'.phase = .holding r' id :=
      Option.some.inj ((phase?_of_getElem? here').symm.trans hafter)
    rcases goes.phase with hsame | ⟨b, entries, advance⟩
    · rw [hsame, phase] at phase'
      cases phase'
    · obtain ⟨hreceived, hid, hasked⟩ := advance.of_holding phase'
      exact ⟨hid, c, c', r', here, hreceived, here', goes.owner, phase', hasked⟩
  · cases hasks

/-- Whoever has a record in hand had it before, or has just taken it. -/
theorem Step.of_inHand {r : Record} (step : Step s a s') (hhand : s'.inHand? i = some r) :
    s.inHand? i = some r ∨ takes? i s s' = some r := by
  have hphase : s'.phase? i = some (.received r) := by
    unfold inHand? at hhand
    split at hhand
    · rename_i hphase
      cases hhand
      exact hphase
    · cases hhand
  obtain ⟨since, hpolling⟩ | ⟨c, c', here, _, goes, phase'⟩ := step.of_phase? hphase
  · cases hpolling
  · have hbefore := phase?_of_getElem? here
    rcases goes.phase with hsame | ⟨b, entries, advance⟩
    · left
      unfold inHand?
      rw [hbefore, ← hsame, phase']
    · right
      obtain ⟨since, hpolling⟩ := advance.of_received phase'
      unfold takes?
      rw [hbefore, hpolling]
      exact hhand

/-- **Whoever takes nothing and has nothing in hand asks for nothing.** -/
theorem asked_eq_nil {actions : List Action} (run : s.run actions = some t)
    (hhand : s.inHand? i = none) (htaken : s.taken i actions = []) : s.asked i actions = [] := by
  unfold taken at htaken
  unfold asked
  induction actions generalizing s with
  | nil => rfl
  | cons a rest ih =>
      obtain ⟨u, hu, hrest⟩ := of_run_cons run
      have step := Step.of_step hu
      rw [trace_cons _ hu, List.append_eq_nil_iff, Option.toList_eq_nil_iff] at htaken
      rw [trace_cons _ hu, List.append_eq_nil_iff, Option.toList_eq_nil_iff]
      refine ⟨?_, ih hrest ?_ htaken.2⟩
      · cases hasks : asks? i s u with
        | none => rfl
        | some id =>
            obtain ⟨_, c, _, r, here, phase, _⟩ := step.of_asks hasks
            unfold inHand? phase? at hhand
            rw [here, Option.map_some, phase] at hhand
            cases hhand
      · cases hu' : u.inHand? i with
        | none => rfl
        | some r =>
            rcases step.of_inHand hu' with hbefore | htakes
            · rw [hhand] at hbefore
              cases hbefore
            · rw [htaken.1] at htakes
              cases htakes

/-! ## §5. The activations of one consumer. -/

/-- What is known of the activations that a consumer has asked for.  Until it ends, it holds a
record as long as one of them has not ended; so that one is the last it asked for. -/
structure Asker (s : System) (i : Nat) (ids : List Nat) : Prop where
  accounted : s.scheduler.Accounted
  known : ∀ id ∈ ids, id < s.scheduler.nextId
  started : s.consumers[i]? = none → ids = []
  owned : ∀ c, s.consumers[i]? = some c → ∀ a ∈ s.scheduler.waiting, a.id ∈ ids → a.owner = c.owner
  latest : ∀ id ∈ ids, id ∉ s.scheduler.resolvedIds → ids.getLast? = some id
    ∧ ∀ c, s.consumers[i]? = some c → c.phase.isFinal = false → ∃ r, c.phase = .holding r id

/-- Before a run nothing has been asked for in it. -/
theorem asker_nil (accounted : s.scheduler.Accounted) : s.Asker i [] where
  accounted := accounted
  known := fun _ h => by cases h
  started := fun _ => rfl
  owned := fun _ _ _ _ h => by cases h
  latest := fun _ h => by cases h

/-- The consumer asks for one more. -/
theorem Asker.asks {id : Nat} (h : s.Asker i ids) (step : Step s a s')
    (hasks : asks? i s s' = some id) : s'.Asker i (ids ++ [id]) := by
  obtain ⟨rfl, c, c', r, here, phase, here', owner, phase', due, _, hscheduler⟩ :=
    step.of_asks hasks
  have hgrows := (Scheduler.Next.asked (x := s.scheduler) s.now
    (Scheduler.delayUntil s.clock.wall due) c.owner).grows
  have hnext : s'.scheduler.nextId = s.scheduler.nextId + 1 := by
    rw [hscheduler, Scheduler.schedule_nextId]
  -- it has a record in hand, so it holds none: all of the others have ended
  have hended : ∀ id ∈ ids, id ∈ s.scheduler.resolvedIds := by
    intro id hid
    by_contra hnot
    obtain ⟨r', hholding⟩ := (h.latest id hid hnot).2 c here (by rw [phase]; rfl)
    rw [phase] at hholding
    cases hholding
  refine ⟨?_, ?_, ?_, ?_, ?_⟩
  · rw [hscheduler]
    exact h.accounted.schedule _ c.owner
  · intro id hid
    rw [hnext]
    rcases List.mem_append.1 hid with hold | hnew
    · have hlt := h.known id hold
      omega
    · rw [List.mem_singleton.1 hnew]
      omega
  · intro hnone
    rw [here'] at hnone
    cases hnone
  · intro x hx activation hwaits hid
    rw [here'] at hx
    cases hx
    rw [owner]
    rw [hscheduler] at hwaits
    rcases Scheduler.waiting_schedule hwaits with hold | ⟨_, hnew⟩
    · refine h.owned c here activation hold ?_
      rcases List.mem_append.1 hid with hid | hid
      · exact hid
      · -- what waits already has another number
        have hlt : activation.id < s.scheduler.nextId :=
          h.accounted.mem_iff.2 (Or.inl (List.mem_map_of_mem hold))
        rw [List.mem_singleton.1 hid] at hlt
        omega
    · exact hnew
  · intro id hid hnot
    rw [hscheduler] at hnot
    rcases List.mem_append.1 hid with hold | hnew
    · exact absurd (hgrows.2 id (hended id hold)) hnot
    · rw [List.mem_singleton.1 hnew]
      refine ⟨List.getLast?_concat, fun x hx _ => ⟨r, ?_⟩⟩
      rw [here'] at hx
      cases hx
      exact phase'

/-- The consumer asks for nothing. -/
theorem Asker.stays (h : s.Asker i ids) (step : Step s a s') : s'.Asker i ids := by
  have next := step.next
  have hwaited : ∀ activation ∈ s'.scheduler.waiting, activation.id ∈ ids →
      activation ∈ s.scheduler.waiting := by
    intro activation hwaits hid
    rcases next.waiting hwaits with hold | hnew
    · exact hold
    · have hlt := h.known _ hid
      omega
  refine ⟨h.accounted.next next, ?_, ?_, ?_, ?_⟩
  · intro id hid
    have hlt := h.known id hid
    have hle := next.grows.1
    omega
  · intro hnone
    cases here : s.consumers[i]? with
    | none => exact h.started here
    | some c =>
        obtain ⟨c', here', _⟩ := step.consumer here
        rw [hnone] at here'
        cases here'
  · intro c' here' activation hwaits hid
    cases here : s.consumers[i]? with
    | none =>
        rw [h.started here] at hid
        cases hid
    | some c =>
        obtain ⟨x, hx, goes⟩ := step.consumer here
        rw [here'] at hx
        cases hx
        rw [goes.owner]
        exact h.owned c here activation (hwaited activation hwaits hid) hid
  · intro id hid hnot
    have hnotBefore : id ∉ s.scheduler.resolvedIds := by
      intro hbefore
      exact hnot (next.grows.2 id hbefore)
    obtain ⟨hlast, hholds⟩ := h.latest id hid hnotBefore
    refine ⟨hlast, fun c' here' hgoing => ?_⟩
    cases here : s.consumers[i]? with
    | none =>
        rw [h.started here] at hid
        cases hid
    | some c =>
        obtain ⟨x, hx, goes⟩ := step.consumer here
        rw [here'] at hx
        cases hx
        rcases goes.phase with hsame | ⟨b, entries, advance⟩
        · rw [hsame] at hgoing ⊢
          exact hholds c here hgoing
        · obtain ⟨r, phase⟩ := hholds c here advance.not_final
          rcases advance.from_holding phase with hfinal | hresolved
          · rw [hgoing] at hfinal
            cases hfinal
          · exact absurd hresolved hnotBefore

/-- **One step.** -/
theorem Asker.step (h : s.Asker i ids) (taken : s.step? a = some s') :
    s'.Asker i (ids ++ (asks? i s s').toList) := by
  have step := Step.of_step taken
  cases hasks : asks? i s s' with
  | some id => exact h.asks step hasks
  | none =>
      rw [Option.toList_none, List.append_nil]
      exact h.stays step

/-- **A run.** -/
theorem Asker.run {actions : List Action} (h : s.Asker i ids) (run : s.run actions = some t) :
    t.Asker i (ids ++ s.asked i actions) := by
  unfold asked
  induction actions generalizing s ids with
  | nil =>
      cases run
      show Asker _ i (ids ++ [])
      rw [List.append_nil]
      exact h
  | cons a rest ih =>
      obtain ⟨u, hu, hrest⟩ := of_run_cons run
      rw [trace_cons _ hu, ← List.append_assoc]
      exact ih (h.step hu) hrest

/-- **The cancellation reaches what was asked for before it, along any run.** -/
theorem Asker.clears {early : List Nat} {actions : List Action} (h : s.Asker i ids)
    (hearly : ∀ id ∈ early, id ∈ ids) (here : s.consumers[i]? = some c)
    (hclears : s.scheduler.Clears c.owner early) (run : s.run actions = some t) :
    t.scheduler.Clears c.owner early := by
  induction actions generalizing s ids c with
  | nil =>
      cases run
      exact hclears
  | cons a rest ih =>
      obtain ⟨u, hu, hrest⟩ := of_run_cons run
      have step := Step.of_step hu
      obtain ⟨c', here', goes⟩ := step.consumer here
      have hnext := hclears.next (fun id hid => h.known id (hearly id hid))
        (fun activation hwaits hid => h.owned c here activation hwaits (hearly _ hid)) step.next
      rw [← goes.owner] at hnext ⊢
      exact ih (h.step hu) (fun id hid => List.mem_append_left _ (hearly id hid)) here' hnext hrest

/-- **At most one of a consumer's activations waits, the last.** -/
theorem Asker.pendingOf_eq (h : s.Asker i ids) {late : List Nat}
    (hlast : ∀ id ∈ s.scheduler.queue.map Activation.id, id ∈ ids → late.getLast? = some id)
    (hlate : ∀ id ∈ late, id ∈ ids) (worked : s.scheduler.commands = []) :
    s.pendingOf ids
      = (late.getLast?.filter fun id => s.scheduler.outcome? id = none).toList := by
  have hwaiting : s.scheduler.waiting = s.scheduler.queue := by
    unfold Scheduler.waiting
    rw [worked]
    exact List.append_nil _
  have hnodup : (s.pendingOf ids).Nodup := by
    have hall := h.accounted.nodup
    rw [hwaiting] at hall
    exact (List.nodup_append.1 hall).1.filter _
  have hmem : ∀ id, id ∈ s.pendingOf ids ↔ id ∈ s.scheduler.queue.map Activation.id ∧ id ∈ ids := by
    intro id
    unfold pendingOf
    rw [List.mem_filter, List.contains_iff_mem]
  -- whatever is pending is the last one, and has not ended
  have hpending : ∀ id ∈ s.pendingOf ids,
      late.getLast? = some id ∧ s.scheduler.outcome? id = none := by
    intro id hid
    obtain ⟨hqueue, hasked⟩ := (hmem id).1 hid
    refine ⟨hlast id hqueue hasked, Scheduler.outcome?_eq_none.2 (h.accounted.disjoint ?_)⟩
    rw [hwaiting]
    exact hqueue
  cases hcase : late.getLast?.filter fun id => s.scheduler.outcome? id = none with
  | none =>
      refine List.eq_nil_iff_forall_not_mem.2 fun id hid => ?_
      obtain ⟨hid, houtcome⟩ := hpending id hid
      rw [hid] at hcase
      simp [houtcome] at hcase
  | some id =>
      obtain ⟨hid, houtcome⟩ := Option.filter_eq_some_iff.1 hcase
      have hasked := hlate id (List.mem_of_getLast? hid)
      have hqueue : id ∈ s.scheduler.queue.map Activation.id := by
        rcases h.accounted.mem_iff.1 (h.known id hasked) with hwaits | hresolved
        · rw [hwaiting] at hwaits
          exact hwaits
        · exact absurd hresolved (Scheduler.outcome?_eq_none.1 (of_decide_eq_true houtcome))
      refine List.perm_singleton.1 ((List.perm_ext_iff_of_nodup hnodup (by simp)).2
        fun id' => ?_)
      rw [List.mem_singleton]
      constructor
      · intro hid'
        have heq := (hpending id' hid').1
        rw [hid] at heq
        exact (Option.some.inj heq).symm
      · rintro rfl
        exact (hmem _).2 ⟨hqueue, hasked⟩

end System

/-! ## §6. After a stop. -/

/-- **A consumer that was stopped leaves behind what it asked for too late.**  Whatever else happens
before and after: once the scheduler has worked off the request to cancel what a consumer owns, and
all others, there is in its queue of the activations of that consumer exactly the last that it asked
for after the request was made, if that has not ended.  So nothing is left if after the request the
consumer takes no record from its source and has none in hand. -/
theorem stopped_consumer_leaves_last {s₀ t s : System} {i : Nat} {before after : List Action}
    (idle : s₀.scheduler = {}) (came : s₀.run before = some t)
    (left : t.run (.cancelOwner i :: after) = some s) (worked : s.scheduler.commands = []) :
    s.pendingOf (s₀.asked i (before ++ .cancelOwner i :: after))
        = ((t.asked i (.cancelOwner i :: after)).getLast?.filter
            fun id => s.scheduler.outcome? id = none).toList
      ∧ (t.inHand? i = none → t.taken i (.cancelOwner i :: after) = [] →
        s.pendingOf (s₀.asked i (before ++ .cancelOwner i :: after)) = []) := by
  have hstart : s₀.Asker i [] := System.asker_nil (by rw [idle]; exact Scheduler.accounted_empty)
  have hearly := hstart.run came
  rw [List.nil_append] at hearly
  have hall := hearly.run left
  -- the request is made, and stands behind everything that was asked for before
  have hcleared : ∀ id ∈ s.scheduler.queue.map Activation.id, id ∉ s₀.asked i before := by
    obtain ⟨u, hu, hrest⟩ := System.of_run_cons left
    have hu' : t.cancelOwner? i = some u := hu
    unfold System.cancelOwner? at hu'
    obtain ⟨c, here, heq⟩ := Option.bind_eq_some_iff.1 hu'
    cases heq
    have hclears := (hearly.step hu).clears (fun id hid => List.mem_append_left _ hid) here
      (Scheduler.clears_cancelOwner hearly.accounted c.owner (s₀.asked i before)) hrest
    intro id hid
    obtain ⟨activation, hactivation, rfl⟩ := List.mem_map.1 hid
    exact hclears.of_idle worked activation (List.mem_append_left _ hactivation)
  have heq : s₀.asked i (before ++ .cancelOwner i :: after)
      = s₀.asked i before ++ t.asked i (.cancelOwner i :: after) :=
    System.trace_append _ came _
  have hleft : s.pendingOf (s₀.asked i (before ++ .cancelOwner i :: after))
      = ((t.asked i (.cancelOwner i :: after)).getLast?.filter
          fun id => s.scheduler.outcome? id = none).toList := by
    rw [heq]
    refine hall.pendingOf_eq ?_ (fun id hid => List.mem_append_right _ hid) worked
    intro id hqueue hasked
    have hunresolved : id ∉ s.scheduler.resolvedIds :=
      hall.accounted.disjoint (by
        unfold Scheduler.waiting
        rw [List.map_append]
        exact List.mem_append_left _ hqueue)
    have hlast := (hall.latest id hasked hunresolved).1
    rw [List.getLast?_append] at hlast
    rcases List.mem_append.1 hasked with hbefore | hlate
    · exact absurd hbefore (hcleared id hqueue)
    · rw [List.getLast?_eq_some_getLast (List.ne_nil_of_mem hlate)] at hlast ⊢
      exact hlast
  refine ⟨hleft, fun hhand htaken => ?_⟩
  rw [hleft, System.asked_eq_nil left hhand htaken]
  rfl

namespace Orders

/-- A delayed record follows a plain one; the consumer of their topic has begun with the first when
it is told to stop. -/
def stopping : List Action :=
  [.publish { topic := "orders-retry" },
    .publish { topic := "orders-retry"
               headers := Headers.insertInt64 {} Headers.due 1700000060000 },
    .proceed 1 {}, .proceed 1 {}, .cancelToken 1]

/-- It ends the delivery, commits, and takes the second record although it was told to stop; it
holds the record until it notices, and its end is awaited. -/
def tooLate : List Action :=
  [.takeHandle 1, .proceed 1 {}, .proceed 1 {}, .proceed 1 {}, .proceed 1 {}, .proceed 1 {},
    .proceed 1 {}, .notice 1, .collect 1, .work, .work]

/-- The system when the scheduler is to be asked to cancel. -/
def told : System := ((wired ["orders"]).toSystem.run stopping).getD {}

/-- The system after the stop. -/
def stopped : System := (told.run (.cancelOwner 1 :: tooLate)).getD {}

end Orders

open Orders in
/-- The consumer has ended and the scheduler has worked off all requests, and yet an activation of
the consumer is pending. -/
theorem stopped_consumer_leaves_last_of_ready :
    stopped.phase? 1 = some (.ended (.ok ())) ∧ stopped.scheduler.commands = []
      ∧ stopped.pendingOf ((wired ["orders"]).toSystem.asked 1
          (stopping ++ .cancelOwner 1 :: tooLate)) = [0] := by
  have hworked : stopped.scheduler.commands = [] := by decide +kernel
  have hcame : (wired ["orders"]).toSystem.run stopping = some told := by decide +kernel
  have hleft : told.run (.cancelOwner 1 :: tooLate) = some stopped := by decide +kernel
  have hidle : (wired ["orders"]).toSystem.scheduler = {} := by decide +kernel
  refine ⟨by decide +kernel, hworked, ?_⟩
  rw [(stopped_consumer_leaves_last hidle hcame hleft hworked).1]
  decide +kernel

end Redelivery
