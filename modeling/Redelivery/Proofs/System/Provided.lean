/-
  Redelivery.Proofs.System.Provided
  ─────────────────────────────────
  **Copies go to topics that exist.**

  A copy is made for a node of the chain that is in force.  So if no chain of
  a source topic comes into force before its topics exist, then each copy
  that a listener of that source topic is about to publish has its topic: the
  topic was there when the registry named the node, and none goes away.
-/
import Redelivery.Proofs.System.Growth
import Redelivery.Proofs.System.Stopping
import Redelivery.Proofs.Topology.Registration

namespace Redelivery

/-- Chains that come into force are those of the context, or were in force before. -/
theorem Registry.of_chain?_register {r : Registry} {context : Context} {source : String}
    {chain : Chain} (h : (r.register context).chain? source = some chain) :
    (chain ∈ context.chains ∧ chain.source = source) ∨ r.chain? source = some chain := by
  unfold register at h
  -- induction on the chains that are left to put in force
  generalize context.chains = chains at h
  induction chains generalizing r with
  | nil => exact Or.inr h
  | cons first rest ih =>
      rcases ih h with ⟨hmem, hsource⟩ | hbefore
      · exact Or.inl ⟨List.mem_cons_of_mem first hmem, hsource⟩
      · rw [chain?_put] at hbefore
        split at hbefore
        · rename_i hsource
          cases hbefore
          exact Or.inl ⟨List.mem_cons_self, hsource.symm⟩
        · exact Or.inr hbefore

/-- The copy that a consumer is about to publish. -/
def Phase.copy? : Phase → Option OutgoingRecord
  | .delivering _ (.publishing out _ _ _) => some out
  | _ => none

theorem Phase.of_copy? {p : Phase} {out : OutgoingRecord} (h : p.copy? = some out) :
    ∃ r outcome failures wake, p = .delivering r (.publishing out outcome failures wake) := by
  unfold copy? at h
  split at h
  · cases h
    exact ⟨_, _, _, _, rfl⟩
  · cases h

namespace System

variable {sources : List String} {first i : Nat} {s s' s₀ : System} {a : Action}

/-- The topics of the chains in force for these source topics exist. -/
def Provided (s : System) (sources : List String) : Prop :=
  ∀ source ∈ sources, ∀ chain, s.registry.chain? source = some chain →
    ∀ d ∈ chain.destinations, d.hasTopic = true → s.broker.hasTopic d.name = true

/-- No chain for these source topics comes into force before its topics exist. -/
def Provides (s : System) (sources : List String) (a : Action) : Prop :=
  ∀ context, a = .register context → ∀ chain ∈ context.chains, chain.source ∈ sources →
    ∀ d ∈ chain.destinations, d.hasTopic = true → s.broker.hasTopic d.name = true

/-- `s₀.Providing sources s`: a run in which chains for these source topics come into force only once
their topics exist leads from `s₀` to `s`. -/
inductive Providing (sources : List String) (s₀ : System) : System → Prop where
  | refl : Providing sources s₀ s₀
  | step {s s' : System} {a : Action} (before : Providing sources s₀ s)
      (provides : s.Provides sources a) (taken : s.step? a = some s') : Providing sources s₀ s'

/-- A run that puts no chain in force is one of these. -/
theorem Providing.of_run {actions : List Action} (run : s₀.run actions = some s)
    (plain : ∀ a ∈ actions, ∀ context, a ≠ .register context) : s₀.Providing sources s :=
  keeps_of_run run (fun _ _ a ha before taken =>
    before.step (fun context heq => absurd heq (plain a ha context)) taken) .refl

/-- The chains have their topics, and so have the copies that the consumers numbered from `first` on
are about to publish. -/
structure Supplied (sources : List String) (first : Nat) (s : System) : Prop where
  provided : s.Provided sources
  copies : ∀ (i : Nat) c out, first ≤ i → s.consumers[i]? = some c →
    c.listener.node.source ∈ sources → c.phase.copy? = some out → s.broker.hasTopic out.topic = true

theorem Provided.step (h : s.Provided sources) (provides : s.Provides sources a)
    (taken : s.step? a = some s') : s'.Provided sources := by
  have hgrows := grows_of_step taken
  intro source hsource chain hchain d hd htopic
  rcases (Step.of_step taken).registry with hsame | ⟨context, rfl, hregistered⟩
  · rw [hsame] at hchain
    exact hgrows.hasTopic (h source hsource chain hchain d hd htopic)
  · rw [hregistered] at hchain
    rcases Registry.of_chain?_register hchain with ⟨hmem, rfl⟩ | hbefore
    · exact hgrows.hasTopic (provides context rfl chain hmem hsource d hd htopic)
    · exact hgrows.hasTopic (h source hsource chain hbefore d hd htopic)

/-- **A delivery makes copies for topics that exist.** -/
theorem Provided.move (h : s.Provided sources) {c : Consumer}
    (hsource : c.listener.node.source ∈ sources) {r : Record} {d : Delivery} {choice : Choice}
    {stage : Stage} {out : OutgoingRecord} {outcome : Outcome} {failures wake : Nat}
    (move : Delivery.Move (some i) c.listener c.handler r choice s.toStage d stage
      (.publishing out outcome failures wake)) :
    s.broker.hasTopic out.topic = true
      ∨ ∃ failures wake, d = .publishing out outcome failures wake := by
  generalize hpublishing : Delivery.publishing out outcome failures wake = d' at move
  cases move with
  | called attempt =>
      generalize c.handler = handler at hpublishing
      cases handler <;> cases hpublishing
  | republishing due verdict =>
      cases hpublishing
      obtain ⟨next, hrouted, _, htopic, rfl, _⟩ := Listener.of_verdict_republish verdict
      obtain ⟨chain, hchain, hmem⟩ := Registry.mem_of_resolve hrouted
      refine Or.inl (h _ hsource chain hchain next hmem ?_)
      unfold Destination.hasTopic
      rw [htopic]
      rfl
  | refused due answer left =>
      cases hpublishing
      exact Or.inr ⟨_, _, rfl⟩
  | _ => cases hpublishing

/-- **Every step keeps chains and copies supplied with their topics.** -/
theorem Supplied.step (h : s.Supplied sources first) (provides : s.Provides sources a)
    (taken : s.step? a = some s') : s'.Supplied sources first := by
  refine ⟨h.provided.step provides taken, fun i c' out hle here' hsource hcopy => ?_⟩
  have hgrows := grows_of_step taken
  obtain ⟨r, outcome, failures, wake, phase'⟩ := Phase.of_copy? hcopy
  have hphase : s'.phase? i = some (.delivering r (.publishing out outcome failures wake)) := by
    rw [phase?_of_getElem? here', phase']
  obtain ⟨since, hpolling⟩ | ⟨c, c'', here, here'', goes, _⟩ := (Step.of_step taken).of_phase? hphase
  · cases hpolling
  · rw [here'] at here''
    cases here''
    rw [goes.listener] at hsource
    have hbefore := h.copies i c out hle here hsource
    rcases goes.phase with hsame | ⟨b, entries, advance⟩
    · rw [hsame] at hcopy
      exact hgrows.hasTopic (hbefore hcopy)
    · rcases advance.of_delivering phase' with hstart | ⟨d, choice, stage, phase, move⟩
      · cases hstart
      · rcases h.provided.move hsource move with htopic | ⟨_, _, rfl⟩
        · exact hgrows.hasTopic htopic
        · exact hgrows.hasTopic (hbefore (by rw [phase]; rfl))

/-- **Along such a run every copy has its topic.** -/
theorem Supplied.run (h : s₀.Supplied sources first) (run : s₀.Providing sources s) :
    s.Supplied sources first := by
  induction run with
  | refl => exact h
  | step before provides taken ih => exact ih.step provides taken

/-- A context that is in force, and whose nodes have their topics, is provided for. -/
theorem provided_of_context {context : Context}
    (hforce : ∀ chain ∈ context.chains, s.registry.chain? chain.source = some chain)
    (hcomplete : ∀ chain ∈ context.chains, ∀ d ∈ chain.destinations, d.hasTopic = true →
      s.broker.hasTopic d.name = true) :
    s.Provided (context.chains.map Chain.source) := by
  intro source hlisted chain hchain
  obtain ⟨own, hown, rfl⟩ := List.mem_map.1 hlisted
  rw [hforce own hown] at hchain
  cases hchain
  exact hcomplete _ hown

/-- Before the first of the consumers is started, only the chains have to be looked at. -/
theorem Provided.supplied (h : s.Provided sources) : s.Supplied sources s.consumers.length where
  provided := h
  copies := by
    intro i c out hle here
    rw [List.getElem?_eq_none hle] at here
    cases here

end System

end Redelivery
