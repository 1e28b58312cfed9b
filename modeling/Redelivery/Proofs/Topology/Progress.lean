/-
  Redelivery.Proofs.Topology.Progress
  ───────────────────────────────────
  **Routing on a regular chain makes progress.**

  Whatever the failure, the attempt, the clock and the policy, a record that
  failed at place `p` of a regular chain has somewhere to go:

      main, retry   → place p if attempts are left, place p + 1, or the last
      dead letter   → place p, or nowhere for good

  No other answer is possible, so no error but that last one.
-/
import Redelivery.Proofs.Topology.Registration
import Redelivery.Proofs.Topology.Routes

namespace Redelivery

/-! ## §1. Places of a chain. -/

/-- A node of a chain of distinct names is found by its name. -/
theorem Chain.position?_name {chain : Chain}
    (hnames : (chain.destinations.map Destination.name).Nodup) {p : Nat} {node : Destination}
    (hnode : chain.destinations[p]? = some node) : chain.position? node.name = some p := by
  obtain ⟨hlt, hget⟩ := List.getElem?_eq_some_iff.1 hnode
  have hsplit : chain.destinations = chain.destinations.take p ++ node
      :: chain.destinations.drop (p + 1) := by
    rw [← hget, List.getElem_cons_drop, List.take_append_drop]
  have hlength : (chain.destinations.take p).length = p := by
    rw [List.length_take]
    omega
  unfold Chain.position?
  rw [hsplit] at hnames ⊢
  rw [findIdx?_name hnames, hlength]

namespace Chain.Regular

variable {chain : Chain} {main terminal node : Destination} {retries : List Destination} {p : Nat}

theorem getLast? (h : chain.Regular main retries terminal) :
    chain.destinations.getLast? = some terminal := by
  rw [h.nodes]
  exact List.getLast?_concat

/-- No two nodes have one name. -/
theorem nodup_names (h : chain.Regular main retries terminal) :
    (chain.destinations.map Destination.name).Nodup := by
  rw [h.nodes]
  exact h.names

/-- Only the last node is terminal. -/
theorem lt_of_not_terminal (h : chain.Regular main retries terminal)
    (hnode : chain.destinations[p]? = some node) (hrole : node.role.isTerminal = false) :
    p + 1 < chain.destinations.length := by
  obtain ⟨hlt, hget⟩ := List.getElem?_eq_some_iff.1 hnode
  -- the place behind all others has the terminal node
  rcases Nat.lt_or_ge (p + 1) chain.destinations.length with hbefore | hlast
  · exact hbefore
  · have hp : p = chain.destinations.length - 1 := by omega
    have hterminal := h.getLast?
    rw [List.getLast?_eq_getElem?, ← hp, hnode] at hterminal
    cases hterminal
    rw [h.terminal_role] at hrole
    cases hrole

end Chain.Regular

/-! ## §2. Where a record goes. -/

/-- `chain.Onward p node attempt q`: after attempt number `attempt` failed on the node at place `p`,
the record may go to place `q`. -/
inductive Chain.Onward (chain : Chain) (p : Nat) (node : Destination) (attempt : UInt32) :
    Nat → Prop where
  | stays (left : attempt < node.maxAttempts) : Chain.Onward chain p node attempt p
  | next : Chain.Onward chain p node attempt (p + 1)
  | last {q : Nat} (last : q + 1 = chain.destinations.length) : Chain.Onward chain p node attempt q

section Regular

variable {chain : Chain} {main terminal node : Destination} {retries : List Destination} {p : Nat}
  {attempt : UInt32} {f : Failure} {first : Option Int64} {now : Int64} {registry : Registry}
  {source : String}

/-- **A record that failed on a main or retry node goes on.** -/
theorem Chain.Regular.onward (h : chain.Regular main retries terminal)
    (hnode : chain.destinations[p]? = some node) (hrole : node.role.isTerminal = false)
    (attempt : UInt32) (f : Failure) (first : Option Int64) (now : Int64) :
    ∃ q next, chain.next? p node attempt f first now = some next
      ∧ chain.destinations[q]? = some next ∧ p ≤ q ∧ chain.Onward p node attempt q := by
  have hlt := h.lt_of_not_terminal hnode hrole
  have hlast : chain.destinations[chain.destinations.length - 1]? = some terminal := by
    rw [← List.getLast?_eq_getElem?]
    exact h.getLast?
  have hend : chain.destinations.length - 1 + 1 = chain.destinations.length := by omega
  unfold Chain.next?
  split
  · exact ⟨_, terminal, h.getLast?, hlast, by omega, .last hend⟩
  · split
    · exact ⟨_, terminal, h.getLast?, hlast, by omega, .last hend⟩
    · split
      · rename_i hleft
        exact ⟨p, node, rfl, hnode, Nat.le_refl p, .stays hleft.1⟩
      · have hnext := List.getElem?_eq_getElem hlt
        exact ⟨p + 1, _, hnext, hnext, Nat.le_succ p, .next⟩

/-- The registry looks at the node in that place. -/
theorem Registry.resolve_of_position {current : String} (hchain : registry.chain? source = some chain)
    (hplace : chain.position? current = some p) (hnode : chain.destinations[p]? = some node) :
    registry.resolve source current attempt f first now
      = match node.role with
        | .noOps => .error (.routing (.failedOnNoOps source))
        | .deadLetter =>
            if node.retriesDeadLetters ∧ ¬chain.policy.classifier.isFatal f then .ok node
            else .error (.fatal current (.deadLetterFailed f))
        | .main | .retry =>
            match chain.next? p node attempt f first now with
            | some next => .ok next
            | none => .error (.routing (.chainEnds current source)) := by
  unfold Registry.resolve
  cases hrole : node.role with
  | noOps => simp only [hchain, hplace, hnode, hrole]
  | deadLetter => simp only [hchain, hplace, hnode, hrole]
  | main =>
      cases hnext : chain.next? p node attempt f first now with
      | none => simp only [hchain, hplace, hnode, hrole, hnext]
      | some next => simp only [hchain, hplace, hnode, hrole, hnext]
  | retry =>
      cases hnext : chain.next? p node attempt f first now with
      | none => simp only [hchain, hplace, hnode, hrole, hnext]
      | some next => simp only [hchain, hplace, hnode, hrole, hnext]

/-- In a chain with distinct names that is the node of that name. -/
theorem Registry.resolve_of_node (hchain : registry.chain? source = some chain)
    (hnames : (chain.destinations.map Destination.name).Nodup)
    (hnode : chain.destinations[p]? = some node) :
    registry.resolve source node.name attempt f first now
      = match node.role with
        | .noOps => .error (.routing (.failedOnNoOps source))
        | .deadLetter =>
            if node.retriesDeadLetters ∧ ¬chain.policy.classifier.isFatal f then .ok node
            else .error (.fatal node.name (.deadLetterFailed f))
        | .main | .retry =>
            match chain.next? p node attempt f first now with
            | some next => .ok next
            | none => .error (.routing (.chainEnds node.name source)) :=
  resolve_of_position hchain (Chain.position?_name hnames hnode) hnode

/-- Routing from a node that is not terminal. -/
theorem Registry.resolve_of_place {current : String} (hchain : registry.chain? source = some chain)
    (hplace : chain.position? current = some p) (hnode : chain.destinations[p]? = some node)
    (hrole : node.role.isTerminal = false) (attempt : UInt32) (f : Failure)
    (first : Option Int64) (now : Int64) :
    registry.resolve source current attempt f first now
      = match chain.next? p node attempt f first now with
        | some next => .ok next
        | none => .error (.routing (.chainEnds current source)) := by
  rw [resolve_of_position hchain hplace hnode]
  cases hcase : node.role with
  | main => rfl
  | retry => rfl
  | deadLetter =>
      rw [hcase] at hrole
      cases hrole
  | noOps =>
      rw [hcase] at hrole
      cases hrole

/-- **Routing from a main or retry node.** -/
theorem Registry.resolve_onward (hchain : registry.chain? source = some chain)
    (h : chain.Regular main retries terminal) (hnode : chain.destinations[p]? = some node)
    (hrole : node.role.isTerminal = false) (attempt : UInt32) (f : Failure)
    (first : Option Int64) (now : Int64) :
    ∃ q next, registry.resolve source node.name attempt f first now = .ok next
      ∧ chain.destinations[q]? = some next ∧ p ≤ q ∧ chain.Onward p node attempt q := by
  obtain ⟨q, next, hnext, hq, hle, honward⟩ := h.onward hnode hrole attempt f first now
  refine ⟨q, next, ?_, hq, hle, honward⟩
  rw [resolve_of_place hchain (Chain.position?_name h.nodup_names hnode) hnode hrole, hnext]

/-- **Routing from a dead-letter node.** -/
theorem Registry.resolve_deadLetter (hchain : registry.chain? source = some chain)
    (h : chain.Regular main retries terminal) (hnode : chain.destinations[p]? = some node)
    (hrole : node.role = .deadLetter) (attempt : UInt32) (f : Failure) (first : Option Int64)
    (now : Int64) :
    registry.resolve source node.name attempt f first now = .ok node
      ∨ ∃ reason, registry.resolve source node.name attempt f first now
        = .error (.fatal node.name reason) := by
  rw [resolve_of_node hchain h.nodup_names hnode, hrole]
  simp only
  split
  · exact Or.inl rfl
  · exact Or.inr ⟨_, rfl⟩

end Regular

/-! ## §3. Nodes in force. -/

/-- The node has a topic, and belongs to a regular chain that is in force for its source topic. -/
def Registry.InForce (registry : Registry) (node : Destination) : Prop :=
  node.hasTopic = true ∧ ∃ chain main retries terminal,
    registry.chain? node.source = some chain ∧ chain.Regular main retries terminal
      ∧ node ∈ chain.destinations

/-- **The only error of routing from such a node is that there is nowhere left to go.** -/
theorem Registry.InForce.of_error {registry : Registry} {node : Destination}
    (h : registry.InForce node) {attempt : UInt32} {f : Failure} {first : Option Int64}
    {now : Int64} {e : Error}
    (he : registry.resolve node.source node.name attempt f first now = .error e) :
    ∃ reason, e = .fatal node.name reason := by
  obtain ⟨htopic, chain, main, retries, terminal, hchain, hregular, hmem⟩ := h
  obtain ⟨p, hnode⟩ := List.getElem?_of_mem hmem
  cases hrole : node.role.isTerminal with
  | false =>
      obtain ⟨q, next, hok, _⟩ :=
        Registry.resolve_onward hchain hregular hnode hrole attempt f first now
      rw [hok] at he
      cases he
  | true =>
      have hdead : node.role = .deadLetter := by
        unfold Destination.hasTopic Destination.isNoOps at htopic
        cases hcase : node.role <;> simp_all [Role.isTerminal]
      rcases Registry.resolve_deadLetter hchain hregular hnode hdead attempt f first now with
        hok | ⟨reason, hfatal⟩
      · rw [hok] at he
        cases he
      · rw [hfatal] at he
        cases he
        exact ⟨reason, rfl⟩

/-- Other source topics may get other chains. -/
theorem Registry.InForce.register {registry : Registry} {node : Destination}
    (h : registry.InForce node) {context : Context}
    (hnot : node.source ∉ context.chains.map Chain.source) :
    (registry.register context).InForce node := by
  obtain ⟨htopic, chain, main, retries, terminal, hchain, hrest⟩ := h
  exact ⟨htopic, chain, main, retries, terminal,
    (Registry.chain?_register_of_not_mem hnot).trans hchain, hrest⟩

end Redelivery
