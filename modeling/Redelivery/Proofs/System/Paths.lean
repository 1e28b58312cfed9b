/-
  Redelivery.Proofs.System.Paths
  ──────────────────────────────
  **All that a simulation does to a system is to take actions.**

  A path is a run of which only the kinds of its actions are known.  Letting
  things settle, letting time pass, awaiting an end and stopping consumers
  are paths of inner actions: those of consumers, of the scheduler, of the
  clock, and the four of a stop.  What every such action keeps is kept by a
  simulation.
-/
import Redelivery.Proofs.System.Steps
import Redelivery.Wiring.Endpoint

namespace Redelivery

/-- An action that nobody outside takes. -/
def Action.isInner : Action → Bool
  | .publish _ | .failNext _ | .createTopic _ _ | .register _ | .start _ _ _
  | .startFeed _ _ _ _ _ | .shutdown => false
  | _ => true

namespace System

/-! ## §1. Paths. -/

/-- Actions of which `P` is true lead from `s` to another system. -/
inductive Path (P : Action → Prop) (s : System) : System → Prop where
  | refl : Path P s s
  | step {t t' : System} {a : Action} (before : Path P s t) (allowed : P a)
      (taken : t.step? a = some t') : Path P s t'

variable {P Q : Action → Prop} {s s' t : System}

theorem Path.single {a : Action} (allowed : P a) (taken : s.step? a = some s') : Path P s s' :=
  .step .refl allowed taken

theorem Path.trans (h : Path P s t) (h' : Path P t s') : Path P s s' := by
  induction h' with
  | refl => exact h
  | step before allowed taken ih => exact ih.step allowed taken

theorem Path.mono (h : Path P s s') (hPQ : ∀ a, P a → Q a) : Path Q s s' := by
  induction h with
  | refl => exact .refl
  | step before allowed taken ih => exact ih.step (hPQ _ allowed) taken

/-- What every action keeps is kept. -/
theorem Path.keeps {I : System → Prop} (h : Path P s s')
    (step : ∀ t t' a, I t → P a → t.step? a = some t' → I t') (init : I s) : I s' := by
  induction h with
  | refl => exact init
  | step before allowed taken ih => exact step _ _ _ ih allowed taken

/-- A run takes its first action, and goes on with the others. -/
theorem of_run_cons {a : Action} {rest : List Action} (h : s.run (a :: rest) = some s') :
    ∃ t, s.step? a = some t ∧ t.run rest = some s' :=
  Option.bind_eq_some_iff.1 h

/-- **A run is a path of its actions.** -/
theorem Path.of_run {actions : List Action} (h : s.run actions = some s')
    (allowed : ∀ a ∈ actions, P a) : Path P s s' := by
  induction actions generalizing s with
  | nil =>
      cases h
      exact .refl
  | cons a rest ih =>
      obtain ⟨t, htaken, hrest⟩ := of_run_cons h
      have hfirst : Path P s t := .single (allowed a List.mem_cons_self) htaken
      exact hfirst.trans (ih hrest fun b hb => allowed b (List.mem_cons_of_mem a hb))

/-- **What every action of a run keeps is kept.** -/
theorem keeps_of_run {I : System → Prop} {actions : List Action} (run : s.run actions = some s')
    (step : ∀ t t' a, a ∈ actions → I t → t.step? a = some t' → I t') (init : I s) : I s' :=
  (Path.of_run run fun _ ha => ha).keeps (fun t t' a hI ha taken => step t t' a ha hI taken) init

/-- The clock does not go back along a run. -/
theorem Later.of_run {actions : List Action} (run : s.run actions = some s') : s.Later s' :=
  keeps_of_run run (fun _ _ _ _ before taken => before.trans (.of_step taken)) (.refl s)

/-- **A consumer keeps its work along a path.** -/
theorem Path.consumer {i : Nat} {c : Consumer} (h : Path P s s') (here : s.consumers[i]? = some c) :
    ∃ c', s'.consumers[i]? = some c' ∧ c'.listener = c.listener ∧ c'.handler = c.handler
      ∧ c'.group = c.group := by
  refine h.keeps (I := fun t => ∃ c', t.consumers[i]? = some c' ∧ c'.listener = c.listener
    ∧ c'.handler = c.handler ∧ c'.group = c.group) ?_ ⟨c, here, rfl, rfl, rfl⟩
  rintro t t' a ⟨x, hx, hlistener, hhandler, hgroup⟩ _ taken
  obtain ⟨x', hx', hgoes⟩ := (Step.of_step taken).consumer hx
  exact ⟨x', hx', hgoes.listener.trans hlistener, hgoes.handler.trans hhandler,
    hgoes.group.trans hgroup⟩

end System

/-! ## §2. Simulations. -/

namespace Simulation

/-- Inner actions lead from one simulation to the other. -/
def Leads (s s' : Simulation) : Prop :=
  System.Path (fun a => a.isInner = true) s.toSystem s'.toSystem

variable {s s' t : Simulation}

theorem Leads.refl (s : Simulation) : s.Leads s := System.Path.refl

theorem Leads.trans (h : s.Leads t) (h' : t.Leads s') : s.Leads s' := System.Path.trans h h'

theorem toSystem_calledWith (s : Simulation) (h : Handler) (r : Record) :
    (s.calledWith h r).toSystem = s.toSystem := by
  unfold calledWith
  cases h <;> rfl

/-- A step of the system inside leads on. -/
theorem leads_of_step {a : Action} {system : System} (inner : a.isInner = true)
    (taken : s.toSystem.step? a = some system) : s.Leads (s.setSystem system) :=
  System.Path.single (P := fun a => a.isInner = true) inner taken

/-- A consumer that goes on leads on, whether or not a handler is called. -/
theorem leads_of_goOn {i : Nat} {c : Consumer} (h : s.goOn? i c = some s') : s.Leads s' := by
  unfold goOn? at h
  split at h
  · rename_i handler r _
    obtain ⟨system, taken, rfl⟩ := Option.map_eq_some_iff.1 h
    unfold Leads
    rw [toSystem_calledWith]
    exact leads_of_step rfl taken
  · obtain ⟨system, taken, rfl⟩ := Option.map_eq_some_iff.1 h
    exact leads_of_step rfl taken

theorem leads_of_notice {i : Nat}
    (h : (s.toSystem.step? (.notice i)).map s.setSystem = some s') : s.Leads s' := by
  obtain ⟨system, taken, rfl⟩ := Option.map_eq_some_iff.1 h
  exact leads_of_step rfl taken

/-- Whatever a consumer does by itself leads on. -/
theorem leads_of_stepConsumer {i : Nat} {c : Consumer} (h : s.stepConsumer? i c = some s') :
    s.Leads s' := by
  -- going on or noticing a stop, in one order or the other
  unfold stepConsumer? at h
  simp only at h
  split at h
  · cases hgo : s.goOn? i c with
    | some t =>
        rw [hgo] at h
        cases h
        exact leads_of_goOn hgo
    | none =>
        rw [hgo] at h
        exact leads_of_notice h
  · cases hnotice : (s.toSystem.step? (.notice i)).map s.setSystem with
    | some t =>
        rw [hnotice] at h
        cases h
        exact leads_of_notice hnotice
    | none =>
        rw [hnotice] at h
        exact leads_of_goOn h

/-- Whatever the scheduler does by itself leads on. -/
theorem leads_of_stepScheduler (h : s.stepScheduler? = some s') : s.Leads s' := by
  unfold stepScheduler? at h
  obtain ⟨system, hfound, rfl⟩ := Option.map_eq_some_iff.1 h
  obtain ⟨a, ha, taken⟩ := List.exists_of_findSome?_eq_some hfound
  refine leads_of_step ?_ taken
  rcases List.mem_cons.1 ha with rfl | ha
  · rfl
  · rcases List.mem_cons.1 ha with rfl | ha
    · rfl
    · rw [List.mem_singleton.1 ha]
      rfl

/-- A turn of anyone leads on. -/
theorem leads_of_turn (h : s.turn? = some s') : s.Leads s' := by
  unfold turn? at h
  cases hscheduler : s.stepScheduler? with
  | some t =>
      rw [hscheduler] at h
      cases h
      exact leads_of_stepScheduler hscheduler
  | none =>
      rw [hscheduler] at h
      have h : (s.consumers.zipIdx).findSome? (fun p => s.stepConsumer? p.2 p.1) = some s' := h
      obtain ⟨p, _, taken⟩ := List.exists_of_findSome?_eq_some h
      exact leads_of_stepConsumer taken

theorem leads_moveTo (s : Simulation) (elapsed : Nat) : s.Leads (s.moveTo elapsed) :=
  System.Path.single (P := fun a => a.isInner = true) (a := .wait elapsed) rfl rfl

/-- **Settling is a path of inner actions.** -/
theorem leads_settleWithin (actions : Nat) : ∀ s : Simulation, s.Leads (s.settleWithin actions) := by
  induction actions with
  | zero => exact fun s => .refl s
  | succ actions ih =>
      intro s
      unfold settleWithin
      split
      · rename_i t hturn
        exact (leads_of_turn hturn).trans (ih t)
      · exact .refl s

/-- To settle is to take turns. -/
theorem leads_settle (s : Simulation) : s.Leads s.settle := leads_settleWithin patience s

/-- **Awaiting an end is a path of inner actions.** -/
theorem leads_awaitWithin (i moves : Nat) : ∀ s : Simulation, s.Leads (s.awaitWithin i moves) := by
  induction moves with
  | zero => exact fun s => .refl s
  | succ moves ih =>
      intro s
      unfold awaitWithin
      simp only
      split
      · exact leads_settle s
      · split
        · rename_i t _
          exact ((leads_settle s).trans (leads_moveTo s.settle t)).trans (ih _)
        · exact leads_settle s

/-- `told.Stops i s'`: what a stop comes to, once the consumer was told and the scheduler was asked to
cancel what it owns. -/
inductive Stops (told : Simulation) (i : Nat) : Simulation → Prop where
  /-- The handle is gone. -/
  | gone (free : told.toSystem.step? (.takeHandle i) = none) : Stops told i told
  /-- The wait for the end is cut off. -/
  | cutOff {system : System} (taken : told.toSystem.step? (.takeHandle i) = some system) :
      Stops told i ((told.setSystem system).awaitWithin i patience)
  | awaited {system system' : System} (taken : told.toSystem.step? (.takeHandle i) = some system)
      (collected : ((told.setSystem system).awaitWithin i patience).toSystem.step? (.collect i)
        = some system') :
      Stops told i (((told.setSystem system).awaitWithin i patience).setSystem system')

/-- **What a stop does.** -/
theorem stops (s : Simulation) (i : Nat) :
    ((s.take (.cancelToken i)).take (.cancelOwner i)).Stops i (s.stop i).2 := by
  -- `delta`, since the equation of `stop` takes long to make, for the bound on its waiting
  delta stop
  simp only
  split
  · rename_i hfree
    exact .gone hfree
  · rename_i system htaken
    split
    · rename_i answer system' hcollect
      refine .awaited htaken ?_
      show (System.collect? _ i).map Prod.snd = some system'
      rw [hcollect]
      rfl
    · exact .cutOff htaken

/-- An action that may not be possible. -/
theorem leads_take {a : Action} (inner : a.isInner = true) (s : Simulation) :
    s.Leads (s.take a) := by
  unfold take
  cases taken : s.toSystem.step? a with
  | none => exact .refl s
  | some system => exact leads_of_step inner taken

/-- **Stopping is a path of inner actions.** -/
theorem leads_stop (s : Simulation) (i : Nat) : s.Leads (s.stop i).2 := by
  have hstops := s.stops i
  have htold : s.Leads ((s.take (.cancelToken i)).take (.cancelOwner i)) :=
    (leads_take rfl s).trans (leads_take rfl _)
  generalize (s.take (.cancelToken i)).take (.cancelOwner i) = told at hstops htold
  generalize (s.stop i).2 = s' at hstops ⊢
  have hwaited : ∀ {system : System}, told.toSystem.step? (.takeHandle i) = some system →
      s.Leads ((told.setSystem system).awaitWithin i patience) :=
    fun taken => (htold.trans (leads_of_step rfl taken)).trans (leads_awaitWithin i patience _)
  cases hstops with
  | gone free => exact htold
  | cutOff taken => exact hwaited taken
  | awaited taken collected => exact (hwaited taken).trans (leads_of_step rfl collected)

theorem leads_stopAll (ids : List Nat) : ∀ s : Simulation, s.Leads (s.stopAll ids).2 := by
  induction ids with
  | nil => exact fun s => .refl s
  | cons i rest ih =>
      intro s
      rw [stopAll_cons]
      exact (leads_stop s i).trans (ih (s.stop i).2)

/-- Inner actions start no consumer. -/
theorem Leads.length_eq (h : s.Leads s') :
    s'.consumers.length = s.consumers.length := by
  unfold Leads at h
  refine System.Path.keeps (I := fun t => t.consumers.length = s.consumers.length) h ?_ rfl
  intro t t' a ht inner taken
  cases System.Step.of_step taken with
  | advanced here advance =>
      show (List.set _ _ _).length = _
      rw [List.length_set, ht]
  | hired l handler group source action consumers scheduler journal registry =>
      rcases action with rfl | ⟨events, commits, rfl⟩ <;> cases inner
  | told a here listener handler group phase stopping =>
      show (List.set _ _ _).length = _
      rw [List.length_set, ht]
  | cancelling here => exact ht
  | scheduled a turn => exact ht
  | registered context => cases inner
  | outside consumers scheduler journal registry =>
      rw [consumers, ht]

end Simulation

end Redelivery
