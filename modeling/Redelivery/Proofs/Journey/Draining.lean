/-
  Redelivery.Proofs.Journey.Draining
  ──────────────────────────────────
  **When a shared node lets a record go.**

  A record that fails on a shared node is published to the node's own topic
  again, with its delivery count raised by one in a header.  The header holds
  31 bits and is read with 1 as its default, so with `c` for the count that
  the record came with and `m` for the attempts of the node:

      count after n returns     min (c + n) (2 ^ 31 - 1)
      m ≤ 2 ^ 31 - 1            the record goes on after m - c returns
      m > 2 ^ 31 - 1            no count reaches m, and it stays for good
-/
import Redelivery.Proofs.Journey.Reuse
import Redelivery.Proofs.Topology.Progress

namespace Redelivery

/-! ## §1. Routing from a shared node. -/

/-- `chain.Shares node next`: a retry node of the chain counts deliveries, and `next` is behind it. -/
structure Chain.Shares (chain : Chain) (node next : Destination) : Prop where
  behind : ∃ before after, chain.destinations = before ++ node :: next :: after
  names : (chain.destinations.map Destination.name).Nodup
  source : node.source = chain.source
  role : node.role = .retry
  reusable : node.reusable = true
  onward : next.role = .retry ∨ next.role.isTerminal = true

/-- **Every shared node of a regular chain has a node behind it.** -/
theorem Chain.Regular.exists_shares {chain : Chain} {main terminal node : Destination}
    {retries : List Destination} (h : chain.Regular main retries terminal)
    (hmem : node ∈ chain.destinations) (hreusable : node.reusable = true) :
    ∃ next, chain.Shares node next := by
  have hnode : node ∈ retries := by
    rw [h.nodes, List.cons_append, List.mem_cons, List.mem_append, List.mem_singleton] at hmem
    rcases hmem with rfl | hmem | rfl
    · rw [h.main_plain] at hreusable
      cases hreusable
    · exact hmem
    · rw [h.terminal_plain] at hreusable
      cases hreusable
  obtain ⟨before, after, rfl⟩ := List.append_of_mem hnode
  have hsource : node.source = chain.source := h.sources node (by simp)
  have hrole := h.retry_roles node (by simp)
  have hnames := h.nodup_names
  -- the node behind it is a retry node as well, or the terminal node
  cases after with
  | nil =>
      refine ⟨terminal, ⟨main :: before, [], ?_⟩, hnames, hsource, hrole, hreusable,
        Or.inr h.terminal_role⟩
      rw [h.nodes, List.cons_append, List.append_assoc]
      rfl
  | cons next after =>
      refine ⟨next, ⟨main :: before, after ++ [terminal], ?_⟩, hnames, hsource, hrole, hreusable,
        Or.inl (h.retry_roles next (by simp))⟩
      rw [h.nodes, List.cons_append, List.append_assoc]
      rfl

namespace Chain.Shares

variable {chain : Chain} {node next : Destination}

theorem countsDeliveries (h : chain.Shares node next) : node.countsDeliveries = true := by
  unfold Destination.countsDeliveries
  rw [h.reusable]
  rfl

/-- The next node has another name. -/
theorem name_ne (h : chain.Shares node next) : next.name ≠ node.name := by
  obtain ⟨before, after, hsplit⟩ := h.behind
  exact name_ne_of_mem (hsplit ▸ h.names) List.mem_cons_self

theorem mem_next (h : chain.Shares node next) : next ∈ chain.destinations := by
  obtain ⟨before, after, hsplit⟩ := h.behind
  rw [hsplit]
  simp

/-- The next node is one place on. -/
theorem exists_place (h : chain.Shares node next) :
    ∃ p : Nat, chain.destinations[p]? = some node ∧ chain.destinations[p + 1]? = some next := by
  obtain ⟨before, after, hsplit⟩ := h.behind
  refine ⟨before.length, ?_, ?_⟩
  · rw [hsplit, List.getElem?_append_right (Nat.le_refl _), Nat.sub_self]
    rfl
  · rw [hsplit, List.getElem?_append_right (by omega), Nat.add_sub_cancel_left]
    rfl

/-- Both nodes are found by their names. -/
theorem get?_name (h : chain.Shares node next) :
    chain.get? node.name = some node ∧ chain.get? next.name = some next := by
  obtain ⟨p, hnode, hnext⟩ := h.exists_place
  unfold Chain.get?
  rw [Chain.position?_name h.names hnode, Chain.position?_name h.names hnext]
  exact ⟨hnode, hnext⟩

/-- **A record stays as long as attempts are left**, whatever kinds may be retried in place. -/
theorem resolve (h : chain.Shares node next) {registry : Registry} {attempt : UInt32} {f : Failure}
    {first : Option Int64} {now : Int64} (hchain : registry.chain? chain.source = some chain)
    (hretry : chain.policy.classifier.isFatal f = false)
    (htime : timedOut chain.policy.timeout first now = false) :
    registry.resolve node.source node.name attempt f first now
      = .ok (if attempt.toNat < node.maxAttempts.toNat then node else next) := by
  obtain ⟨p, hnode, hbehind⟩ := h.exists_place
  have hrole : node.role.isTerminal = false := by
    rw [h.role]
    rfl
  have hnext : chain.next? p node attempt f first now
      = some (if attempt.toNat < node.maxAttempts.toNat then node else next) := by
    unfold Chain.next?
    rw [hretry, htime, hbehind, h.reusable]
    by_cases hless : attempt.toNat < node.maxAttempts.toNat
    · simp [hless, UInt32.lt_iff_toNat_lt.2 hless]
    · simp [hless, UInt32.lt_iff_toNat_lt]
  rw [h.source, Registry.resolve_of_place hchain (Chain.position?_name h.names hnode) hnode hrole,
    hnext]

end Chain.Shares

namespace Journey

variable {chain : Chain} {node next : Destination} {crew : Crew} {handler : String}
  {results : Nat → Option Failure} {moment : Nat → Moment} {path : Nat → Journey}
  {first : UInt32} {n t : Nat}

/-! ## §2. Deliveries on a shared node. -/

/-- While a journey is on the node, every call fails for a retry, and no timeout is up. -/
structure Failing (policy : Policy) (results : Nat → Option Failure) (moment : Nat → Moment)
    (node : Destination) (path : Nat → Journey) : Prop where
  retried : ∀ t a, (path t).node = node → (path t).delivery = .calling a →
    ∃ f, results (path t).calls = some f ∧ policy.classifier.isFatal f = false
  inTime : ∀ t, (path t).node = node →
    timedOut policy.timeout ((path t).record.headers.getInt64? Headers.firstFailureTime)
      (moment t).stage.clock.wall = false

/-- The journey is about to make a call on the node, after so many returns to its topic; `first` is
the count that the record came with. -/
structure Waits (node : Destination) (first : UInt32) (n : Nat) (j : Journey) : Prop where
  place : j.node = node
  calls : j.calls = n
  hops : j.hops = List.replicate n node.delay
  delivery : ∃ a : UInt32, j.delivery = .calling a ∧ a.toNat = min (first.toNat + n) 2147483647

/-- The journey went on to the next node after so many returns to the topic of this one. -/
inductive WentOn (crew : Crew) (node next : Destination) (n : Nat) (j : Journey) : Prop where
  /-- The record is delivered on the next retry node. -/
  | forwarded (role : next.role = .retry) (place : j.node = next) (topic : j.record.topic = next.name)
      (delivery : j.delivery = .start (crew.listener next) j.record) (calls : j.calls = n + 1)
      (hops : j.hops = List.replicate n node.delay ++ [next.delay])
  /-- The record ends at the terminal node. -/
  | ended (role : next.role.isTerminal = true)
      (delivery : j.delivery = .ended (.ok (endAt next))) (calls : j.calls = n + 1)
      (hops : j.hops = List.replicate n node.delay)

theorem waits_start (shares : chain.Shares node next) (r : Record) :
    Waits node r.headers.attempt 0 (start crew node r) where
  place := rfl
  calls := rfl
  hops := rfl
  delivery := by
    have hbounds := r.headers.attempt_bounds
    refine ⟨r.headers.attempt, ?_, by omega⟩
    have hattempt : (crew.listener node).firstAttempt r = r.headers.attempt := by
      unfold Listener.firstAttempt
      exact if_pos shares.countsDeliveries
    exact congrArg Delivery.calling hattempt

section Returns

variable (travels : Travels chain crew handler results moment path) (calm : Calm chain moment)
  (shares : chain.Shares node next) (failing : Failing chain.policy results moment node path)
include calm shares failing

/-- The call that is waited for leads back to the node, or on to the next. -/
theorem Waits.exists_leadsTo (waits : Waits node first n (path t)) :
    ∃ a f, (path t).delivery = .calling a ∧ a.toNat = min (first.toNat + n) 2147483647
      ∧ results (path t).calls = some f
      ∧ LeadsTo crew moment path t a f (if a.toNat < node.maxAttempts.toNat then node else next) := by
  obtain ⟨a, hcall, hcount⟩ := waits.delivery
  obtain ⟨f, hresult, hretry⟩ := failing.retried t a waits.place hcall
  refine ⟨a, f, hcall, hcount, hresult, fun t' hnode hrecord => ?_⟩
  rw [waits.place] at hnode ⊢
  have htime := failing.inTime t' hnode
  rw [hrecord] at htime
  exact shares.resolve (calm.inForce t') hretry htime

include travels

/-- **A return**: as long as attempts are left, the record is on the node again, counted once more. -/
theorem Waits.exists_return (waits : Waits node first n (path t))
    (hleft : min (first.toNat + n) 2147483647 < node.maxAttempts.toNat) :
    ∃ t', Waits node first (n + 1) (path t') := by
  obtain ⟨a, f, hcall, hcount, hresult, leads⟩ := waits.exists_leadsTo calm shares failing
  rw [if_pos (hcount ▸ hleft)] at leads
  have hcounts := shares.countsDeliveries
  have hleaves : (crew.listener (path t).node).staysInPlace node = false := by
    rw [waits.place]
    unfold Listener.staysInPlace
    show (node.name == node.name && !node.countsDeliveries) = false
    rw [hcounts, Bool.not_true, Bool.and_false]
  obtain ⟨t', r, _, _, _, _, hr, hhop⟩ := exists_hop travels calm hcall hresult leads hleaves
    shares.role shares.get?_name.1
  -- what was read has at most 31 bits, so adding one to it does not wrap
  have hsucc : (a + 1).toNat = a.toNat + 1 := by
    rw [UInt32.toNat_add]
    show (a.toNat + 1) % 4294967296 = _
    omega
  have hread : r.headers.attempt.toNat = min (a.toNat + 1) 2147483647 := by
    rw [hr, toNat_attempt_copyFor hsucc]
    exact if_pos (congrArg Destination.name waits.place).symm
  have hattempt : (crew.listener node).firstAttempt r = r.headers.attempt := by
    unfold Listener.firstAttempt
    exact if_pos hcounts
  refine ⟨t', ?_, ?_, ?_, ?_⟩
  · rw [hhop]
  · rw [hhop, waits.calls]
  · rw [hhop, waits.hops, List.replicate_succ']
  · rw [hhop]
    exact ⟨_, congrArg Delivery.calling hattempt, by omega⟩

/-- **Going on**: when no attempt is left, the record goes to the next node. -/
theorem Waits.exists_wentOn (waits : Waits node first n (path t))
    (hnone : node.maxAttempts.toNat ≤ min (first.toNat + n) 2147483647) :
    ∃ t', WentOn crew node next n (path t') := by
  obtain ⟨a, f, hcall, hcount, hresult, leads⟩ := waits.exists_leadsTo calm shares failing
  rw [if_neg (by omega)] at leads
  have hleaves : (crew.listener (path t).node).staysInPlace next = false := by
    rw [waits.place]
    unfold Listener.staysInPlace
    show (next.name == node.name && _) = false
    rw [beq_false_of_ne shares.name_ne]
    rfl
  rcases shares.onward with hrole | hrole
  · obtain ⟨t', r, _, _, _, _, hr, hhop⟩ := exists_hop travels calm hcall hresult leads hleaves hrole
      shares.get?_name.2
    refine ⟨t', .forwarded hrole ?_ ?_ ?_ ?_ ?_⟩
    · rw [hhop]
    · rw [hhop, hr]
      rfl
    · rw [hhop]
    · rw [hhop, waits.calls]
    · rw [hhop, waits.hops]
  · obtain ⟨t', hend⟩ := exists_terminal travels calm hcall hresult leads hleaves hrole shares.mem_next
    refine ⟨t', .ended hrole ?_ ?_ ?_⟩
    · rw [hend]
    · rw [hend, waits.calls]
    · rw [hend, waits.hops]

/-- **As many returns as the count allows.** -/
theorem exists_waits (waits : Waits node first 0 (path 0)) :
    ∀ n, (∀ k, k < n → min (first.toNat + k) 2147483647 < node.maxAttempts.toNat) →
      ∃ t, Waits node first n (path t) := by
  -- induction on the returns, each of which is one delivery of the record
  intro n
  induction n with
  | zero => exact fun _ => ⟨0, waits⟩
  | succ n ih =>
      intro hleft
      obtain ⟨t, waits'⟩ := ih fun k hk => hleft k (by omega)
      exact waits'.exists_return travels calm shares failing (hleft n (Nat.lt_succ_self n))

end Returns

/-! ## §3. Where a journey is, by the number of its hops. -/

variable (chain crew handler results) in
/-- A moment keeps the node and the hops, or adds a hop. -/
theorem next_node (j : Journey) (m : Moment) :
    ((j.next chain crew handler results m).node = j.node
        ∧ (j.next chain crew handler results m).hops.length = j.hops.length)
      ∨ (j.next chain crew handler results m).hops.length = j.hops.length + 1 := by
  unfold next
  split
  · exact Or.inl ⟨rfl, rfl⟩
  · unfold arrive
    split
    · exact Or.inr (List.length_append ..)
    · exact Or.inl ⟨rfl, rfl⟩
  · exact Or.inl ⟨rfl, rfl⟩

section Hops

variable (travels : Travels chain crew handler results moment path)
include travels

/-- Hops are not taken back, and without one the node is the same. -/
theorem node_of_le (u k : Nat) :
    (path u).hops.length ≤ (path (u + k)).hops.length
      ∧ ((path (u + k)).hops.length = (path u).hops.length → (path (u + k)).node = (path u).node) := by
  induction k with
  | zero => exact ⟨Nat.le_refl _, fun _ => rfl⟩
  | succ k ih =>
      obtain ⟨hle, hsame⟩ := ih
      have hstep := next_node chain crew handler results (path (u + k)) (moment (u + k))
      rw [← travels (u + k)] at hstep
      rcases hstep with ⟨hnode, hlength⟩ | hlength
      · refine ⟨?_, fun heq => hnode.trans (hsame ?_)⟩
        · show _ ≤ (path (u + k + 1)).hops.length
          omega
        · rw [← hlength]
          exact heq
      · refine ⟨?_, fun heq => ?_⟩
        · show _ ≤ (path (u + k + 1)).hops.length
          omega
        · have heq : (path (u + k + 1)).hops.length = (path u).hops.length := heq
          omega

/-- **A journey is on one node from hop to hop.** -/
theorem node_of_hops {u v : Nat} (h : (path u).hops.length = (path v).hops.length) :
    (path u).node = (path v).node := by
  rcases Nat.le_total u v with hle | hle
  · obtain ⟨k, rfl⟩ := Nat.exists_eq_add_of_le hle
    exact ((node_of_le travels u k).2 h.symm).symm
  · obtain ⟨k, rfl⟩ := Nat.exists_eq_add_of_le hle
    exact (node_of_le travels v k).2 h

end Hops

end Journey

/-! ## §4. Every shared node. -/

open Journey in
/-- **A shared node lets a record go as long as 31 bits hold its attempts.**  On every shared node of
a chain that is built, and whatever the headers of the record on it: in calm surroundings, with every
delivery there failing for a retry and no timeout up, the record returns to the topic of the node
until the count in its header reaches the attempts of the node, and goes on to the node behind it
with the delivery after that.  A count that is written is at most `2 ^ 31 - 1`; so a node with more
attempts never lets the record go, and makes one delivery after another. -/
theorem shared_node_drains_within_31_bits {source : String} {levels : List Level} {naming : Naming}
    {nodes : List Destination} (hbuilt : buildNodes source levels naming = .ok nodes)
    {node : Destination} (hmem : node ∈ nodes) (hreusable : node.reusable = true) {policy : Policy}
    (crew : Crew) (handler : String) (r : Record) {results : Nat → Option Failure}
    {moment : Nat → Moment} (calm : Calm ⟨source, nodes, policy⟩ moment)
    (failing : Failing policy results moment node
      (travel ⟨source, nodes, policy⟩ crew handler results moment (start crew node r))) :
    ∃ p next, nodes[p]? = some node ∧ nodes[p + 1]? = some next
      ∧ (node.maxAttempts.toNat ≤ 2147483647 →
          ∃ t, WentOn crew node next (node.maxAttempts.toNat - r.headers.attempt.toNat)
            (travel ⟨source, nodes, policy⟩ crew handler results moment (start crew node r) t))
      ∧ (2147483647 < node.maxAttempts.toNat →
          (∀ t, (travel ⟨source, nodes, policy⟩ crew handler results moment (start crew node r)
            t).node = node)
          ∧ ∀ n, ∃ t, Waits node r.headers.attempt n
            (travel ⟨source, nodes, policy⟩ crew handler results moment (start crew node r) t)) := by
  obtain ⟨main, retries, terminal, hregular, _⟩ := regular_of_buildNodes hbuilt policy
  obtain ⟨next, shares⟩ := hregular.exists_shares hmem hreusable
  obtain ⟨p, hnode, hnext⟩ := shares.exists_place
  have travels := travels_travel ⟨source, nodes, policy⟩ crew handler results moment
    (start crew node r)
  have hbounds := r.headers.attempt_bounds
  have hwaits := exists_waits travels calm shares failing (waits_start shares r)
  refine ⟨p, next, hnode, hnext, fun hfit => ?_, fun hmany => ?_⟩
  · obtain ⟨t, waits⟩ := hwaits (node.maxAttempts.toNat - r.headers.attempt.toNat)
      fun k hk => by omega
    exact waits.exists_wentOn travels calm shares failing (by omega)
  · have hforever : ∀ n, ∃ t, Waits node r.headers.attempt n
        (travel ⟨source, nodes, policy⟩ crew handler results moment (start crew node r) t) :=
      fun n => hwaits n fun k _ => by omega
    refine ⟨fun t => ?_, hforever⟩
    -- at some moment there are as many hops as now, and the journey is on the node
    obtain ⟨t', waits⟩ := hforever (travel ⟨source, nodes, policy⟩ crew handler results moment
      (start crew node r) t).hops.length
    refine (node_of_hops travels ?_).trans waits.place
    rw [waits.hops, List.length_replicate]

namespace Orders

/-- Two retry levels of one delay, with `2 ^ 31` attempts together. -/
def endlessLevels : List Level := Level.forChain [1000, 1000] 1073741824 true true

/-- The nodes of these levels. -/
def endless : List Destination :=
  (buildNodes "orders" endlessLevels { reuse := .single }).toOption.getD []

/-- The node that both retry levels share. -/
def endlessNode : Destination := (endless[1]?).getD default

/-- The node that two levels with one attempt each share. -/
def sharedNode : Destination := (shared[1]?).getD default

/-- In quiet moments every call fails for a retry. -/
theorem failing_quietMoment (nodes : List Destination) (node : Destination) (path : Nat → Journey) :
    Journey.Failing {} (fun _ => some failure) (quietMoment ⟨"orders", nodes, {}⟩) node path where
  retried := fun _ _ _ _ => ⟨failure, rfl, by decide +kernel⟩
  inTime := fun _ _ => rfl

end Orders

open Journey Orders in
/-- A node with two attempts lets a record go after one return; a node with `2 ^ 31` attempts keeps
it. -/
theorem shared_node_drains_within_31_bits_of_two_nodes :
    (∃ t, WentOn crew sharedNode deadLetters 1
      (travel ⟨"orders", shared, {}⟩ crew "main" (fun _ => some failure)
        (quietMoment ⟨"orders", shared, {}⟩) (start crew sharedNode record) t))
    ∧ ∀ n, ∃ t, Waits endlessNode 1 n
      (travel ⟨"orders", endless, {}⟩ crew "main" (fun _ => some failure)
        (quietMoment ⟨"orders", endless, {}⟩) (start crew endlessNode record) t) := by
  have hshared : buildNodes "orders" levels { reuse := .single } = .ok shared := by decide +kernel
  have hendless : buildNodes "orders" endlessLevels { reuse := .single } = .ok endless := by
    decide +kernel
  have hmem : sharedNode ∈ shared ∧ endlessNode ∈ endless := by decide +kernel
  have hreusable : sharedNode.reusable = true ∧ endlessNode.reusable = true := by decide +kernel
  obtain ⟨p, next, hnode, hnext, hdrains, _⟩ :=
    shared_node_drains_within_31_bits hshared hmem.1 hreusable.1 crew "main" record
      (calm_quietMoment _) (failing_quietMoment _ _ _)
  obtain ⟨_, _, _, _, _, hstays⟩ :=
    shared_node_drains_within_31_bits hendless hmem.2 hreusable.2 crew "main" record
      (calm_quietMoment _) (failing_quietMoment _ _ _)
  have hdeadLetters : next = deadLetters := by
    match p with
    | 0 => exact absurd (Option.some.inj hnode) (by decide)
    | 1 => exact (Option.some.inj hnext).symm
    | 2 => cases hnext
    | p + 3 => cases hnode
  rw [hdeadLetters] at hdrains
  exact ⟨hdrains (by decide +kernel), (hstays (by decide +kernel)).2⟩

end Redelivery
