/-
  Redelivery.Proofs.Topology.Routes
  ─────────────────────────────────
  **Where the registry sends a failed record.**

  Whatever the chain, the next node is one of it.  On a chain of distinct
  names, seen as `before ++ node :: after`, a failure on a main or retry node
  has three continuations:

      fatal                → the last node
      attempts are left    → node
      no attempt is left   → the first of `after`

  provided that every kind may be retried in place and that no time is up.
-/
import Redelivery.Routing

namespace Redelivery

/-! ## §1. On any chain. -/

section Any

variable {registry : Registry} {source current : String} {attempt : UInt32} {f : Failure}
  {first : Option Int64} {now : Int64}

/-- What is found under a name is a node of the chain. -/
theorem Chain.mem_of_get? {chain : Chain} {name : String} {d : Destination}
    (h : chain.get? name = some d) : d ∈ chain.destinations := by
  obtain ⟨p, _, hnode⟩ := Option.bind_eq_some_iff.1 h
  exact List.mem_of_getElem? hnode

theorem Chain.mem_of_next? {chain : Chain} {position : Nat} {node next : Destination}
    (hnode : chain.destinations[position]? = some node)
    (h : chain.next? position node attempt f first now = some next) :
    next ∈ chain.destinations := by
  unfold Chain.next? at h
  split at h
  · exact List.mem_of_getLast? h
  split at h
  · exact List.mem_of_getLast? h
  split at h
  · cases h
    exact List.mem_of_getElem? hnode
  · exact List.mem_of_getElem? h

/-- **The registry names a node of the chain of the source topic.** -/
theorem Registry.mem_of_resolve {next : Destination}
    (h : registry.resolve source current attempt f first now = .ok next) :
    ∃ chain, registry.chain? source = some chain ∧ next ∈ chain.destinations := by
  unfold Registry.resolve at h
  cases hchain : registry.chain? source with
  | none =>
      rw [hchain] at h
      cases h
  | some chain =>
      simp only [hchain] at h
      cases hposition : chain.position? current with
      | none =>
          rw [hposition] at h
          cases h
      | some position =>
          simp only [hposition] at h
          cases hnode : chain.destinations[position]? with
          | none =>
              rw [hnode] at h
              cases h
          | some node =>
              simp only [hnode] at h
              refine ⟨chain, rfl, ?_⟩
              split at h
              · cases h
              · split at h
                · cases h
                  exact List.mem_of_getElem? hnode
                · cases h
              all_goals
                split at h
                · rename_i hnext
                  cases h
                  exact Chain.mem_of_next? hnode hnext
                · cases h

/-- The registry never asks for a retry by its error. -/
theorem Registry.stopsConsumer_of_resolve {e : Error}
    (h : registry.resolve source current attempt f first now = .error e) :
    e.stopsConsumer = true := by
  -- every error of the registry is fatal, whichever check it comes from
  unfold Registry.resolve at h
  repeat' split at h
  all_goals cases h
  all_goals rfl

end Any

/-! ## §2. On a chain of distinct names. -/

/-- The names of nodes behind a node are not its name. -/
theorem name_ne_of_mem {before after : List Destination} {node d : Destination}
    (hnames : ((before ++ node :: after).map Destination.name).Nodup) (hd : d ∈ after) :
    d.name ≠ node.name := by
  rw [List.map_append, List.nodup_append] at hnames
  have hcons := hnames.2.1
  rw [List.map_cons, List.nodup_cons] at hcons
  intro heq
  exact hcons.1 (heq ▸ List.mem_map_of_mem hd)

/-- A node is found at its place. -/
theorem findIdx?_name {before after : List Destination} {node : Destination}
    (hnames : ((before ++ node :: after).map Destination.name).Nodup) :
    (before ++ node :: after).findIdx? (fun d => d.name == node.name) = some before.length := by
  -- induction on the nodes before it, none of which has its name
  induction before with
  | nil =>
      rw [List.nil_append, List.findIdx?_cons, beq_self_eq_true]
      rfl
  | cons d before ih =>
      rw [List.cons_append, List.map_cons, List.nodup_cons] at hnames
      have hne : d.name ≠ node.name := by
        intro heq
        apply hnames.1
        rw [heq, List.map_append, List.map_cons]
        exact List.mem_append_right _ List.mem_cons_self
      rw [List.cons_append, List.findIdx?_cons, beq_false_of_ne hne, ih hnames.2]
      rfl

/-- A policy under which every kind is retried in place and no time is up. -/
structure Policy.Patient (p : Policy) : Prop where
  everyKind : p.blockingRetryOn = []
  noTimeout : p.timeout = none

section Distinct

variable {registry : Registry} {chain : Chain} {before after : List Destination}
  {node : Destination} {attempt : UInt32} {f : Failure} {first : Option Int64} {now : Int64}

/-- Where a record goes that failed on `node`, with `after` behind it. -/
def Chain.onward? (c : Chain) (node : Destination) (after : List Destination) (attempt : UInt32)
    (f : Failure) : Option Destination :=
  if c.policy.classifier.isFatal f then c.terminal?
  else if attempt < node.maxAttempts then some node
  else after.head?

theorem Chain.next?_eq_onward? (hpatient : chain.policy.Patient)
    (hsplit : chain.destinations = before ++ node :: after) :
    chain.next? before.length node attempt f first now = chain.onward? node after attempt f := by
  have hblocks : chain.policy.blocksOn f = true := by
    unfold Policy.blocksOn
    rw [hpatient.everyKind]
    rfl
  have htime : timedOut chain.policy.timeout first now = false := by
    rw [hpatient.noTimeout]
    rfl
  have hnext : chain.destinations[before.length + 1]? = after.head? := by
    have hle : before.length ≤ before.length + 1 := by omega
    rw [hsplit, List.getElem?_append_right hle, Nat.add_sub_cancel_left, List.getElem?_cons_succ,
      List.head?_eq_getElem?]
  unfold Chain.next? Chain.onward?
  rw [htime, hblocks, hnext]
  simp

/-- **Routing on a chain of distinct names.** -/
theorem Registry.resolve_eq_onward? {source : String} (hchain : registry.chain? source = some chain)
    (hpatient : chain.policy.Patient) (hsplit : chain.destinations = before ++ node :: after)
    (hnames : (chain.destinations.map Destination.name).Nodup)
    (hrole : node.role = .main ∨ node.role = .retry) {next : Destination}
    (hnext : chain.onward? node after attempt f = some next) :
    registry.resolve source node.name attempt f first now = .ok next := by
  have hposition : chain.position? node.name = some before.length := by
    unfold Chain.position?
    rw [hsplit] at hnames ⊢
    exact findIdx?_name hnames
  have hnode : chain.destinations[before.length]? = some node := by
    rw [hsplit, List.getElem?_append_right (Nat.le_refl _), Nat.sub_self]
    rfl
  have hnext : chain.next? before.length node attempt f first now = some next :=
    (Chain.next?_eq_onward? hpatient hsplit).trans hnext
  unfold Registry.resolve
  simp only [hchain, hposition, hnode]
  rcases hrole with hrole | hrole
  · simp only [hrole, hnext]
  · simp only [hrole, hnext]

end Distinct

end Redelivery
