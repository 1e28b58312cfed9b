/-
  Redelivery.Proofs.System.Punctual
  ─────────────────────────────────
  **No record is handled before it is due.**

  The due time in the headers of a record is a wall-clock time.  On its way
  to the call it is turned into a delay, and into a time since the start:

      header  ──delayUntil──▶  delay  ──dueTime──▶  activation  ──fire──▶  call

  None of the three makes it earlier (`due_le_of_delayUntil`,
  `Scheduler.FiresFrom`), so whoever holds a record waits until it is due,
  and whoever delivers one has waited (`Timely`).
-/
import Redelivery.Proofs.Bus.Endings
import Redelivery.Proofs.Conservation.Endpoint
import Redelivery.Proofs.Delivery.Hops
import Redelivery.Proofs.System.Stopping

namespace Redelivery

/-! ## §1. Wall-clock time and time since the start. -/

namespace Clock

/-- The wall-clock time, even where 64 bits do not hold it. -/
def time (c : Clock) : Int := c.start.toInt + c.elapsed

/-- The clock shows the time or a later one, unless it cannot show the time that it is. -/
def Reached (c : Clock) (due : Int) : Prop :=
  due ≤ c.wall.toInt ∨ Int64.maxValue.toInt < c.time

instance (c : Clock) (due : Int) : Decidable (c.Reached due) := by
  unfold Reached
  infer_instance

/-- From the start of the clock to the time there are no more milliseconds than 64 bits hold. -/
def Spans (c : Clock) (due : Int) : Prop := due - c.start.toInt ≤ Int64.maxValue.toInt

instance (c : Clock) (due : Int) : Decidable (c.Spans due) := by
  unfold Spans
  infer_instance

theorem toInt_wall {c : Clock} (h : c.time ≤ Int64.maxValue.toInt) : c.wall.toInt = c.time := by
  have hstart := c.start.le_toInt
  rw [Int64.toInt_maxValue] at h
  unfold time at h ⊢
  unfold wall
  rw [Int64.toInt_ofInt_of_le (by omega) (by omega)]

/-- A time that has come is reached. -/
theorem Reached.of_le {c : Clock} {due : Int} (h : due ≤ c.time) : c.Reached due := by
  by_cases hshown : c.time ≤ Int64.maxValue.toInt
  · left
    rw [toInt_wall hshown]
    exact h
  · exact Or.inr (Int.not_le.1 hshown)

end Clock

/-- An activation is never due before it was asked for. -/
theorem Scheduler.le_dueTime (now delay : Nat) : now ≤ Scheduler.dueTime now delay := by
  unfold Scheduler.dueTime
  split
  · omega
  · omega

/-- **The way from the due time of a record to that of its activation makes it no earlier.** -/
theorem due_le_of_delayUntil {c : Clock} {due : Int64} (spans : c.Spans due.toInt) :
    due.toInt
      ≤ c.start.toInt + Scheduler.dueTime c.elapsed (Scheduler.delayUntil c.wall due) := by
  have hnow := Scheduler.le_dueTime c.elapsed (Scheduler.delayUntil c.wall due)
  by_cases hpast : due.toInt ≤ c.time
  · unfold Clock.time at hpast
    omega
  · -- the time is still to come, so the clock can show the present
    have hmax := due.toInt_le
    have hwall : c.wall.toInt = c.time := Clock.toInt_wall (by omega)
    have hdelay : Scheduler.delayUntil c.wall due = (due.toInt - c.time).toNat := by
      unfold Scheduler.delayUntil
      unfold Clock.Spans at spans
      have hmin := Int64.toInt_minValue
      have htime : c.time = c.start.toInt + c.elapsed := rfl
      rw [hwall, Int64.toInt_ofIntClamp (by omega) (by omega)]
    have hstart := c.start.le_toInt
    rw [Int64.toInt_maxValue] at hmax
    unfold Clock.time at hpast hdelay
    unfold Scheduler.dueTime
    split
    · omega
    · -- a delay that the clock cannot represent is not longer than 64 bits hold
      rename_i hlong
      unfold Scheduler.lastTime at hlong
      omega

/-! ## §2. Consumers that wait. -/

/-- Whoever holds a record waits for an activation that does not fire before the record is due, and
whoever delivers one does so when it is due. -/
def Phase.Timely (c : Clock) (x : Scheduler) : Phase → Prop
  | .holding r id => ∀ due, r.due? = some due → c.Spans due.toInt →
      ∃ n, x.FiresFrom c.elapsed id n ∧ due.toInt ≤ c.start.toInt + n
  | .delivering r _ => ∀ due, r.due? = some due → c.Spans due.toInt → due.toInt ≤ c.time
  | _ => True

namespace System

variable {s s' s₀ : System} {i : Nat} {c : Consumer} {a : Action}

/-- **What a step does to the scheduler fires no activation early.** -/
theorem Uses.firesFrom {x : Scheduler} {id due : Nat} (uses : s.Uses a x)
    (h : s.scheduler.FiresFrom s.now id due) : x.FiresFrom s.now id due := by
  cases uses with
  | same => exact h
  | asked a delay owner => exact h.schedule delay owner
  | cancelling here => exact h.cancelOwner _
  | turned a turn => exact h.turn turn

/-- **Nor does a run.** -/
theorem firesFrom_of_run {actions : List Action} {id due : Nat}
    (h : s.scheduler.FiresFrom s.now id due) (run : s.run actions = some s') :
    s'.scheduler.FiresFrom s'.now id due := by
  refine keeps_of_run (I := fun t => t.scheduler.FiresFrom t.now id due) run ?_ h
  intro t t' a _ hfires taken
  exact ((Step.of_step taken).uses.firesFrom hfires).later (Later.of_step taken).now

/-- **A consumer that advances comes to a timely phase.** -/
theorem Advance.timely {c' : Consumer} {b : Broker} {x : Scheduler} {entries : List JournalEntry}
    (advance : s.Advance i c a b x c' entries) (accounted : s.scheduler.Accounted)
    (h : c.phase.Timely s.clock s.scheduler) : c'.phase.Timely s.clock x := by
  cases advance with
  | noticed told waits => trivial
  | @polled since polled b σ choice phase gives => cases polled <;> trivial
  | begun choice phase plain =>
      intro due hdue
      rw [plain] at hdue
      cases hdue
  | @asked r due choice phase delayed =>
      intro due' hdue spans
      rw [delayed] at hdue
      cases hdue
      exact ⟨_, Scheduler.firesFrom_schedule accounted _ _, due_le_of_delayUntil spans⟩
  | resumed choice phase awake => trivial
  | fired choice phase outcome =>
      -- the activation has fired, and it does not fire before the record is due
      rw [phase] at h
      intro due hdue spans
      obtain ⟨n, hfires, hle⟩ := h due hdue spans
      have hnow := hfires.fired outcome
      unfold Clock.time
      omega
  | cancelled choice phase outcome => trivial
  | moved phase move left plain =>
      rw [phase] at h
      exact h
  | @concluded r result choice phase =>
      show Phase.Timely _ _ (Consumer.afterDelivery r result)
      rcases Consumer.afterDelivery_cases r result with hp | ⟨e, hp⟩
      · rw [hp]
        trivial
      · rw [hp]
        trivial
  | brokeDown choice phase => trivial
  | committed choice phase takes => trivial

/-- Time may pass. -/
theorem timely_later {p : Phase} {x : Scheduler} (later : s.Later s')
    (h : p.Timely s.clock x) : p.Timely s'.clock x := by
  have hspans : ∀ {due : Int}, s'.clock.Spans due → s.clock.Spans due := by
    intro due spans
    unfold Clock.Spans at spans ⊢
    rw [later.start] at spans
    exact spans
  have hnow : s.clock.elapsed ≤ s'.clock.elapsed := later.now
  cases p with
  | holding r id =>
      intro due hdue spans
      obtain ⟨n, hfires, hle⟩ := h due hdue (hspans spans)
      rw [later.start]
      exact ⟨n, hfires.later hnow, hle⟩
  | delivering r d =>
      intro due hdue spans
      have hle := h due hdue (hspans spans)
      unfold Clock.time at hle ⊢
      rw [later.start]
      omega
  | _ => trivial

/-- Every consumer is in a timely phase. -/
structure Timely (s : System) : Prop where
  accounted : s.scheduler.Accounted
  phases : ∀ i p, s.phase? i = some p → p.Timely s.clock s.scheduler

/-- **One step.** -/
theorem Timely.step (h : s.Timely) (taken : s.step? a = some s') : s'.Timely := by
  have step := Step.of_step taken
  refine ⟨h.accounted.next step.next, fun i p' hp' => ?_⟩
  refine timely_later (.of_step taken) ?_
  obtain ⟨since, rfl⟩ | ⟨c, c', here, _, goes, rfl⟩ := step.of_phase? hp'
  · trivial
  · have hbefore := h.phases i c.phase (phase?_of_getElem? here)
    rcases goes.phase with hsame | ⟨b, entries, advance⟩
    · -- the consumer rests, and the scheduler may have taken a turn
      rw [hsame]
      cases hc : c.phase with
      | holding r id =>
          rw [hc] at hbefore
          intro due hdue spans
          obtain ⟨n, hfires, hle⟩ := hbefore due hdue spans
          exact ⟨n, step.uses.firesFrom hfires, hle⟩
      | delivering r d =>
          rw [hc] at hbefore
          exact hbefore
      | _ => trivial
    · exact advance.timely h.accounted hbefore

/-- **A run.** -/
theorem Timely.run {actions : List Action} (h : s.Timely) (run : s.run actions = some s') :
    s'.Timely :=
  keeps_of_run run (fun _ _ _ _ before taken => before.step taken) h

/-- Nobody has taken a record yet, and nothing was asked of the scheduler. -/
structure Opening (s : System) : Prop where
  idle : s.scheduler = {}
  polling : ∀ c ∈ s.consumers, ∃ since, c.phase = .polling since

theorem Opening.timely (h : s.Opening) : s.Timely where
  accounted := by
    rw [h.idle]
    exact Scheduler.accounted_empty
  phases := by
    intro i p hp
    obtain ⟨c, here, hphase⟩ := Option.map_eq_some_iff.1 hp
    obtain ⟨since, hpolling⟩ := h.polling c (List.mem_of_getElem? here)
    rw [← hphase, hpolling]
    trivial

/-- The record with which a consumer calls its handler by a step. -/
def calls? (i : Nat) (s t : System) : Option Record :=
  match s.phase? i, t.phase? i with
  | some (.delivering r (.calling _)), some (.delivering _ (.handling _ _ _)) => some r
  | _, _ => none

theorem of_calls? {r : Record} (h : calls? i s s' = some r) :
    ∃ attempt, s.phase? i = some (.delivering r (.calling attempt)) := by
  unfold calls? at h
  split at h
  · rename_i hbefore hafter
    cases h
    exact ⟨_, hbefore⟩
  · cases h

/-- **A handler is called when the record is due.** -/
theorem Timely.of_calls? {r : Record} {due : Int64} (h : s.Timely) (calls : calls? i s s' = some r)
    (delayed : r.due? = some due) (spans : s.clock.Spans due.toInt) : due.toInt ≤ s.clock.time := by
  obtain ⟨attempt, hphase⟩ := System.of_calls? calls
  exact h.phases i _ hphase due delayed spans

end System

/-! ## §3. Copies. -/

open Headers in
/-- **A copy is due when the delay of its node is over.** -/
theorem Listener.due?_outgoing (l : Listener) (r : Record) (f : Failure) (next : Destination)
    (n : UInt32) (now : Int64) (offset : Nat) (put : Int64) :
    (Broker.stored (l.outgoing r f next n now) offset put).due?
      = some (Listener.dueTime now next.delay) := by
  have hkey : isRenewed due = true := by decide
  have hattempts : (attempts == due) = false := by decide
  show (l.outgoing r f next n now).headers.getInt64? due = _
  rw [getInt64?, get?_eq_getLast?, values_outgoing, valuesIn_firstFailureEntries_of_renewed hkey,
    hkey]
  simp [valuesIn, hattempts, Bytes.toInt64?_ofInt64]

/-- A delay that 64 bits hold with their sign is added, unless the sum is one that they do not. -/
theorem Listener.toInt_dueTime {now : Int64} {delay : UInt64} (hdelay : delay ≤ longestDelay)
    (h : now.toInt + delay.toNat ≤ Int64.maxValue.toInt) :
    (Listener.dueTime now delay).toInt = now.toInt + delay.toNat := by
  have hnow := now.le_toInt
  have hmin := Int64.toInt_minValue
  unfold Listener.dueTime
  rw [if_pos hdelay, Int64.toInt_ofIntClamp (by omega) h]

namespace System

variable {s s' s₀ : System} {i : Nat} {a : Action}

/-- The copy that a consumer decides to publish by a step, its handler having failed. -/
def copies? (i : Nat) (s t : System) : Option OutgoingRecord :=
  match s.phase? i, t.phase? i with
  | some (.delivering _ (.handling _ (.failed _) _)),
      some (.delivering _ (.publishing out _ _ _)) => some out
  | _, _ => none

/-- **A copy is for the node that the registry names for the failure, and made at that time.** -/
theorem Step.of_copies? {out : OutgoingRecord} (step : Step s a s')
    (copies : copies? i s s' = some out) :
    ∃ c r attempt f next, s.consumers[i]? = some c
      ∧ c.listener.routed s.registry s.clock.wall r attempt f = .ok next
      ∧ out = c.listener.copyFor r f attempt s.clock.wall next := by
  unfold copies? at copies
  split at copies
  · rename_i r attempt f wake r' out' outcome failures wake' hbefore hafter
    cases copies
    obtain ⟨c, here, phase⟩ := Option.map_eq_some_iff.1 hbefore
    obtain ⟨c', here', goes⟩ := step.consumer here
    have phase' : c'.phase = .delivering r' (.publishing out outcome failures wake') :=
      Option.some.inj ((phase?_of_getElem? here').symm.trans hafter)
    rcases goes.phase with hsame | ⟨b, entries, advance⟩
    · rw [hsame, phase] at phase'
      cases phase'
    · rcases advance.of_delivering phase' with hstart | ⟨d₀, choice, stage, hd₀, move⟩
      · cases hstart
      · rw [phase] at hd₀
        cases hd₀
        cases move with
        | republishing due verdict =>
            obtain ⟨next, routed, _, _, hout, _⟩ := Listener.of_verdict_republish verdict
            exact ⟨c, r, attempt, f, next, here, routed, hout⟩
  · cases copies

end System

/-! ## §4. From the failure to the call. -/

/-- **A delayed record is never handled early.**  Whatever consumers, scheduler, clock and the world
outside do: a handler is called with a record that carries a due time only when the clock has reached
that time.  So if a copy is made because of a failure at some time, no handler is called with it
before the delay of its node has passed since.  Both for due times that are no further from the start
of the clock than 64 bits hold, and delays that do not lead beyond 64 bits. -/
theorem records_wait_until_due {s₀ s s' : System} {before : List Action} {a : Action} {i : Nat}
    (opening : s₀.Opening) (came : s₀.run before = some s) (taken : s.step? a = some s') :
    (∀ r due, System.calls? i s s' = some r → r.due? = some due → s₀.clock.Spans due.toInt →
      s.clock.Reached due.toInt)
    ∧ ∀ out, System.copies? i s s' = some out → ∃ c r attempt f next,
        s.consumers[i]? = some c ∧ c.listener.routed s.registry s.clock.wall r attempt f = .ok next
        ∧ out = c.listener.copyFor r f attempt s.clock.wall next
        ∧ ∀ after t b t' k offset put, s'.run after = some t → t.step? b = some t' →
          System.calls? k t t' = some (Broker.stored out offset put) →
          s.clock.wall.toInt + next.delay.toNat ≤ Int64.maxValue.toInt →
          s₀.clock.Spans (s.clock.wall.toInt + next.delay.toNat) →
          t.clock.Reached (s.clock.wall.toInt + next.delay.toNat) := by
  have htimely := opening.timely.run came
  have hspans : ∀ {t : System} {due : Int}, s₀.Later t → s₀.clock.Spans due → t.clock.Spans due := by
    intro t due later spans
    unfold Clock.Spans at spans ⊢
    rw [later.start]
    exact spans
  have hlater := System.Later.of_run came
  refine ⟨?_, ?_⟩
  · intro r due calls delayed spans
    exact .of_le (htimely.of_calls? calls delayed (hspans hlater spans))
  · intro out copies
    obtain ⟨c, r, attempt, f, next, here, routed, hout⟩ := (System.Step.of_step taken).of_copies? copies
    refine ⟨c, r, attempt, f, next, here, routed, hout, ?_⟩
    intro after t b t' k offset put onward _ calls hfits spans
    have hwent : s.Later t := .trans (.of_step taken) (.of_run onward)
    by_cases hshown : s.clock.time ≤ Int64.maxValue.toInt
    · -- the clock shows a time after its start, so the delay has no more bits than the due time
      have hwall := Clock.toInt_wall hshown
      have hlong : next.delay ≤ longestDelay := by
        have hstart : s.clock.start = s₀.clock.start := hlater.start
        unfold Clock.Spans at spans
        unfold Clock.time at hwall
        rw [UInt64.le_iff_toNat_le]
        show _ ≤ 9223372036854775807
        rw [Int64.toInt_maxValue] at spans
        rw [hwall, hstart] at spans
        omega
      have hdue : (Broker.stored out offset put).due?
          = some (Listener.dueTime s.clock.wall next.delay) := by
        rw [hout]
        exact Listener.due?_outgoing _ _ _ _ _ _ _ _
      rw [← Listener.toInt_dueTime hlong hfits] at spans ⊢
      have hthen := (htimely.step taken).run onward
      exact .of_le (hthen.of_calls? calls hdue (hspans (hlater.trans hwent) spans))
    · right
      have hnow : s.clock.elapsed ≤ t.clock.elapsed := hwent.now
      unfold Clock.time at hshown ⊢
      rw [hwent.start]
      omega

namespace Orders

/-- A record comes and its handler fails.  The copy is published and taken, and held until its
activation has fired. -/
def retrying : List Action :=
  .publish { topic := "orders" } :: delivery 0
    [.proceed 0 {}, .proceed 1 {}, .proceed 1 {}, .work, .wait 50, .fire, .proceed 1 {}]

/-- The system when the handler is to be called with the copy. -/
def retried : System := ((wired ["orders"]).toSystem.run retrying).getD {}

/-- The system after the call. -/
def recalled : System := (retried.step? (.proceed 1 {})).getD {}

end Orders

open Orders in
/-- The handler is called with a copy that is due fifty milliseconds after the failure. -/
theorem records_wait_until_due_of_retry :
    ((System.calls? 1 retried recalled).bind Record.due?) = some 1700000000050
      ∧ retried.clock.Reached 1700000000050 := by
  have hopening : (wired ["orders"]).toSystem.Opening :=
    ⟨by decide +kernel, fun c hc => ⟨0, by revert c; decide +kernel⟩⟩
  have hcame : (wired ["orders"]).toSystem.run retrying = some retried := by decide +kernel
  have htaken : retried.step? (.proceed 1 {}) = some recalled := by decide +kernel
  have hcall : ((System.calls? 1 retried recalled).bind Record.due?) = some 1700000000050 := by
    decide +kernel
  obtain ⟨r, hcalls, hdue⟩ := Option.bind_eq_some_iff.1 hcall
  exact ⟨hcall, (records_wait_until_due hopening hcame htaken).1 r _ hcalls hdue (by decide +kernel)⟩

end Redelivery
