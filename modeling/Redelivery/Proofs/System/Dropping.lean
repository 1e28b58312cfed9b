/-
  Redelivery.Proofs.System.Dropping
  ─────────────────────────────────
  **Which records are dropped.**

  A failed record is dropped where its chain has nowhere to put it, and
  nowhere else:

      main, retry   the failure leads to a last node without a topic
      dead letter   the failure is fatal, or dead letters are not retried

  What a delivery that ends says about its failures is an equivalence
  (`Delivery.Passage.dropped_iff`): the record was dropped if and only if the
  latest failure is one of these.
-/
import Redelivery.Proofs.Delivery.Course
import Redelivery.Proofs.System.Punctual
import Redelivery.Proofs.Topology.Progress

namespace Redelivery

/-! ## §1. Reasons to drop a record. -/

/-- The failure takes the record from the node at place `p` to the last node of the chain. -/
def Chain.LeadsToLast (chain : Chain) (p : Nat) (node : Destination) (attempt : UInt32)
    (f : Failure) (first : Option Int64) (now : Int64) : Prop :=
  chain.policy.classifier.isFatal f = true ∨ timedOut chain.policy.timeout first now = true
    ∨ (p + 2 = chain.destinations.length
      ∧ ¬(attempt < node.maxAttempts ∧ (node.reusable = true ∨ chain.policy.blocksOn f = true)))

/-- There is nowhere to put a record after attempt number `attempt` failed with `f` on the node at
place `p`. -/
inductive Chain.Drops (chain : Chain) (p : Nat) (node : Destination) (attempt : UInt32)
    (f : Failure) (first : Option Int64) (now : Int64) : Prop where
  /-- The last node has no topic. -/
  | noDeadLetters {terminal : Destination} (onward : node.role = .main ∨ node.role = .retry)
      (last : chain.terminal? = some terminal) (noTopic : terminal.role = .noOps)
      (leads : chain.LeadsToLast p node attempt f first now) :
      Chain.Drops chain p node attempt f first now
  /-- A dead letter failed for good. -/
  | deadLetter (role : node.role = .deadLetter)
      (final : chain.policy.classifier.isFatal f = true ∨ node.retriesDeadLetters = false) :
      Chain.Drops chain p node attempt f first now

/-- The chains in force are regular, as those of any planning are. -/
def Registry.Regular (registry : Registry) : Prop :=
  ∀ {source : String} {chain : Chain}, registry.chain? source = some chain →
    ∃ main retries terminal, chain.Regular main retries terminal

section Regular

variable {chain : Chain} {main terminal node next : Destination} {retries : List Destination}
  {p : Nat} {attempt : UInt32} {f : Failure} {first : Option Int64} {now : Int64}

namespace Chain.Regular

/-- Only the last node can be without a topic. -/
theorem role_of_lt (h : chain.Regular main retries terminal)
    (hnode : chain.destinations[p]? = some node) (hlt : p + 1 < chain.destinations.length) :
    node.role = .main ∨ node.role = .retry := by
  rw [h.nodes, List.length_append, List.length_cons, List.length_singleton] at hlt
  rw [h.nodes, List.getElem?_append_left (by rw [List.length_cons]; omega)] at hnode
  rcases List.mem_cons.1 (List.mem_of_getElem? hnode) with rfl | hretry
  · exact Or.inl h.main_role
  · exact Or.inr (h.retry_roles node hretry)

theorem terminal?_eq (h : chain.Regular main retries terminal) :
    chain.terminal? = some terminal := h.getLast?

/-- A node that ends a chain is the last one. -/
theorem eq_terminal (h : chain.Regular main retries terminal)
    (hnode : chain.destinations[p]? = some node) (hrole : node.role.isTerminal = true) :
    node = terminal := by
  have hlt : p < chain.destinations.length := (List.getElem?_eq_some_iff.1 hnode).1
  rcases Nat.lt_or_ge (p + 1) chain.destinations.length with hbefore | hlast
  · rcases h.role_of_lt hnode hbefore with hr | hr
    · rw [hr] at hrole
      cases hrole
    · rw [hr] at hrole
      cases hrole
  · have hterminal := h.getLast?
    rw [List.getLast?_eq_getElem?, show chain.destinations.length - 1 = p by omega, hnode]
      at hterminal
    exact Option.some.inj hterminal

/-- Nodes at different places have different names. -/
theorem name_ne (h : chain.Regular main retries terminal) {q : Nat}
    (hnode : chain.destinations[p]? = some node) (hnext : chain.destinations[q]? = some next)
    (hpq : p ≠ q) : next.name ≠ node.name := by
  intro heq
  have hp := Chain.position?_name h.nodup_names hnode
  have hq := Chain.position?_name h.nodup_names hnext
  rw [heq, hp] at hq
  exact hpq (Option.some.inj hq)

/-- **The next node has no topic if and only if the failure leads to the last one and that has
none.** -/
theorem noOps_iff (h : chain.Regular main retries terminal)
    (hnode : chain.destinations[p]? = some node) (hrole : node.role = .main ∨ node.role = .retry)
    (hnext : chain.next? p node attempt f first now = some next) :
    next.role = .noOps
      ↔ terminal.role = .noOps ∧ chain.LeadsToLast p node attempt f first now := by
  have hlt : p + 1 < chain.destinations.length :=
    h.lt_of_not_terminal hnode (by rcases hrole with hr | hr <;> rw [hr] <;> rfl)
  unfold Chain.next? at hnext
  unfold Chain.LeadsToLast
  split at hnext
  · rename_i hfatal
    rw [h.terminal?_eq] at hnext
    cases hnext
    exact ⟨fun hnoOps => ⟨hnoOps, Or.inl hfatal⟩, fun hboth => hboth.1⟩
  · rename_i hfatal
    split at hnext
    · rename_i htime
      rw [h.terminal?_eq] at hnext
      cases hnext
      exact ⟨fun hnoOps => ⟨hnoOps, Or.inr (Or.inl htime)⟩, fun hboth => hboth.1⟩
    · rename_i htime
      split at hnext
      · -- the record stays, and its node has a topic
        rename_i hstays
        cases hnext
        constructor
        · intro hnoOps
          rw [hnoOps] at hrole
          rcases hrole with hr | hr <;> cases hr
        · rintro ⟨_, hf | ht | ⟨_, hleft⟩⟩
          · exact absurd hf hfatal
          · exact absurd ht htime
          · exact absurd hstays hleft
      · rename_i hleaves
        by_cases hlast : p + 2 = chain.destinations.length
        · have hend : chain.destinations[p + 1]? = some terminal := by
            rw [← h.getLast?, List.getLast?_eq_getElem?]
            congr 1
            omega
          rw [hend] at hnext
          cases hnext
          exact ⟨fun hnoOps => ⟨hnoOps, Or.inr (Or.inr ⟨hlast, hleaves⟩)⟩, fun hboth => hboth.1⟩
        · constructor
          · intro hnoOps
            have hinner := h.role_of_lt hnext (by omega)
            rw [hnoOps] at hinner
            rcases hinner with hr | hr <;> cases hr
          · rintro ⟨_, hf | ht | ⟨hp, _⟩⟩
            · exact absurd hf hfatal
            · exact absurd ht htime
            · exact absurd hp hlast

end Chain.Regular

/-- From a main or retry node, a record is dropped if and only if the next node has no topic. -/
theorem Chain.Regular.drops_iff (h : chain.Regular main retries terminal)
    (hnode : chain.destinations[p]? = some node) (hrole : node.role = .main ∨ node.role = .retry)
    (hnext : chain.next? p node attempt f first now = some next) :
    chain.Drops p node attempt f first now ↔ next.role = .noOps := by
  rw [h.noOps_iff hnode hrole hnext]
  constructor
  · intro hdrops
    cases hdrops with
    | noDeadLetters onward last noTopic leads =>
        rw [h.terminal?_eq] at last
        cases last
        exact ⟨noTopic, leads⟩
    | deadLetter role final =>
        rw [role] at hrole
        rcases hrole with hr | hr <;> cases hr
  · rintro ⟨hnoTopic, hleads⟩
    exact .noDeadLetters hrole h.terminal?_eq hnoTopic hleads

/-! ## §2. Verdicts. -/

namespace Listener

variable {l : Listener} {registry : Registry} {r : Record}

/-- A record that is to be put on a topic is not dropped. -/
theorem verdict_ne_dropped (hrouted : l.routed registry now r attempt f = .ok next)
    (htopic : next.isNoOps = false) :
    (l.verdict registry now r attempt f).1 ≠ .finish (.ok .dropped) := by
  cases hstays : l.staysInPlace next with
  | true =>
      rw [verdict_of_again hrouted hstays]
      exact nofun
  | false =>
      rw [verdict_of_topic hrouted hstays htopic]
      exact nofun

/-- On a main or retry node. -/
theorem verdict_dropped_iff_of_onward (hchain : registry.chain? l.node.source = some chain)
    (h : chain.Regular main retries terminal) (hnode : chain.destinations[p]? = some node)
    (hname : node.name = l.node.name) (hrole : node.role = .main ∨ node.role = .retry) :
    (l.verdict registry now r attempt f).1 = .finish (.ok .dropped)
      ↔ chain.Drops p node attempt f (r.headers.getInt64? Headers.firstFailureTime) now := by
  have honward : node.role.isTerminal = false := by
    rcases hrole with hr | hr
    · rw [hr]
      rfl
    · rw [hr]
      rfl
  obtain ⟨q, next, hnext, hq, _, _⟩ :=
    h.onward hnode honward attempt f (r.headers.getInt64? Headers.firstFailureTime) now
  have hrouted : l.routed registry now r attempt f = .ok next := by
    unfold routed
    rw [← hname, Registry.resolve_of_node hchain h.nodup_names hnode, hnext]
    rcases hrole with hr | hr
    · rw [hr]
    · rw [hr]
  rw [h.drops_iff hnode hrole hnext]
  cases hnoOps : next.isNoOps with
  | true =>
      have hrole' : next.role = .noOps := eq_of_beq hnoOps
      -- the node has a topic, so the record does not stay on it
      have hpq : p ≠ q := by
        rintro rfl
        rw [hnode] at hq
        cases hq
        rw [hrole'] at honward
        cases honward
      have hleaves : l.staysInPlace next = false := by
        unfold staysInPlace
        rw [← hname, beq_eq_false_iff_ne.2 (h.name_ne hnode hq hpq)]
        rfl
      exact ⟨fun _ => hrole', fun _ => verdict_of_noOps hrouted hleaves hnoOps⟩
  | false =>
      have hkept := verdict_ne_dropped hrouted hnoOps
      exact ⟨fun hverdict => absurd hverdict hkept,
        fun hrole' => by cases (beq_eq_false_iff_ne.1 hnoOps) hrole'⟩

/-- On a dead-letter node. -/
theorem verdict_dropped_iff_of_deadLetter (hchain : registry.chain? l.node.source = some chain)
    (h : chain.Regular main retries terminal) (hnode : chain.destinations[p]? = some node)
    (hname : node.name = l.node.name) (hrole : node.role = .deadLetter) :
    (l.verdict registry now r attempt f).1 = .finish (.ok .dropped)
      ↔ chain.Drops p node attempt f (r.headers.getInt64? Headers.firstFailureTime) now := by
  have hresolve : l.routed registry now r attempt f
      = if node.retriesDeadLetters ∧ ¬chain.policy.classifier.isFatal f then .ok node
        else .error (.fatal node.name (.deadLetterFailed f)) := by
    unfold routed
    rw [← hname, Registry.resolve_of_node hchain h.nodup_names hnode, hrole]
  split at hresolve
  · rename_i hagain
    -- the dead letter goes back to its topic
    have htopic : node.isNoOps = false := by
      unfold Destination.isNoOps
      rw [hrole]
      rfl
    constructor
    · intro hverdict
      exact absurd hverdict (verdict_ne_dropped hresolve htopic)
    · intro hdrops
      cases hdrops with
      | noDeadLetters onward last noTopic leads =>
          rw [hrole] at onward
          rcases onward with hr | hr <;> cases hr
      | deadLetter role final =>
          rcases final with hfatal | hnever
          · exact absurd hfatal hagain.2
          · exact absurd hagain.1 (by rw [hnever]; exact Bool.false_ne_true)
  · rename_i hfinal
    rw [verdict_of_fatal hresolve]
    refine ⟨fun _ => .deadLetter hrole ?_, fun _ => rfl⟩
    cases hfatal : chain.policy.classifier.isFatal f with
    | true => exact Or.inl rfl
    | false =>
        right
        rw [← Bool.not_eq_true]
        intro hretries
        exact hfinal ⟨hretries, by rw [hfatal]; exact Bool.false_ne_true⟩

/-- On any node of the chain. -/
theorem verdict_dropped_iff_of_node (hchain : registry.chain? l.node.source = some chain)
    (h : chain.Regular main retries terminal) (hnode : chain.destinations[p]? = some node)
    (hname : node.name = l.node.name) :
    (l.verdict registry now r attempt f).1 = .finish (.ok .dropped)
      ↔ chain.Drops p node attempt f (r.headers.getInt64? Headers.firstFailureTime) now := by
  cases hrole : node.role with
  | main => exact verdict_dropped_iff_of_onward hchain h hnode hname (Or.inl hrole)
  | retry => exact verdict_dropped_iff_of_onward hchain h hnode hname (Or.inr hrole)
  | deadLetter => exact verdict_dropped_iff_of_deadLetter hchain h hnode hname hrole
  | noOps =>
      -- nothing fails on a node that has no topic
      have hrouted : l.routed registry now r attempt f
          = .error (.routing (.failedOnNoOps l.node.source)) := by
        unfold routed
        rw [← hname, Registry.resolve_of_node hchain h.nodup_names hnode, hrole]
      constructor
      · intro hverdict
        rw [verdict_of_error hrouted fun _ _ heq => by cases heq] at hverdict
        cases hverdict
      · intro hdrops
        cases hdrops with
        | noDeadLetters onward last noTopic leads =>
            rw [hrole] at onward
            rcases onward with hr | hr <;> cases hr
        | deadLetter role final =>
            rw [hrole] at role
            cases role

/-- The topic of the listener is that of a node of its chain in force, and from there the record has
nowhere to go. -/
def Drops (l : Listener) (registry : Registry) (r : Record) (attempt : UInt32) (f : Failure)
    (now : Int64) : Prop :=
  ∃ chain p node, registry.chain? l.node.source = some chain ∧ chain.destinations[p]? = some node
    ∧ node.name = l.node.name
    ∧ chain.Drops p node attempt f (r.headers.getInt64? Headers.firstFailureTime) now

/-- **A listener drops a failed record if and only if its chain has nowhere to put it.** -/
theorem verdict_dropped_iff (regular : registry.Regular) :
    (l.verdict registry now r attempt f).1 = .finish (.ok .dropped)
      ↔ l.Drops registry r attempt f now := by
  cases hchain : registry.chain? l.node.source with
  | none =>
      -- without a chain the failure is an error of the configuration
      have hrouted : l.routed registry now r attempt f
          = .error (.configuration (.unknownChain l.node.source)) := by
        unfold routed Registry.resolve
        rw [hchain]
      rw [verdict_of_error hrouted nofun]
      constructor
      · intro hverdict
        cases hverdict
      · rintro ⟨chain, _, _, hchain', _⟩
        rw [hchain] at hchain'
        cases hchain'
  | some chain =>
      obtain ⟨main, retries, terminal, h⟩ := regular hchain
      by_cases hmember : ∃ (p : Nat) (node : Destination),
          chain.destinations[p]? = some node ∧ node.name = l.node.name
      · obtain ⟨p, node, hnode, hname⟩ := hmember
        rw [verdict_dropped_iff_of_node hchain h hnode hname]
        constructor
        · intro hdrops
          exact ⟨chain, p, node, hchain, hnode, hname, hdrops⟩
        · rintro ⟨chain', q, node', hchain', hnode', hname', hdrops⟩
          rw [hchain] at hchain'
          cases hchain'
          -- names are distinct, so it is the same node
          have hp := Chain.position?_name h.nodup_names hnode
          have hq := Chain.position?_name h.nodup_names hnode'
          rw [hname', ← hname, hp] at hq
          cases hq
          rw [hnode] at hnode'
          cases hnode'
          exact hdrops
      · -- on a topic that is not the chain's, the failure is an error of the routing
        have hrouted : l.routed registry now r attempt f
            = .error (.routing (.notInChain l.node.name l.node.source)) := by
          have hposition : chain.position? l.node.name = none := by
            unfold Chain.position?
            rw [List.findIdx?_eq_none_iff]
            intro node hnode
            obtain ⟨p, hp⟩ := List.getElem?_of_mem hnode
            exact beq_eq_false_iff_ne.2 fun hname => hmember ⟨p, node, hp, hname⟩
          unfold routed Registry.resolve
          simp only [hchain, hposition]
        rw [verdict_of_error hrouted nofun]
        constructor
        · intro hverdict
          cases hverdict
        · rintro ⟨chain', p, node, hchain', hnode, hname, _⟩
          rw [hchain] at hchain'
          cases hchain'
          exact absurd ⟨p, node, hnode, hname⟩ hmember

end Listener

end Regular

/-! ## §3. Deliveries on unchanged chains. -/

namespace Delivery

/-- The copies that a step hands to the broker. -/
def tries : Delivery → List OutgoingRecord
  | .publishing out _ _ _ => [out]
  | _ => []

/-- `Passage registry l h r ms tried d`: with the chains of `registry` in force, a delivery of `r` can
come to `d`, its handler having failed with `ms`, the latest first, and the broker having been handed
`tried`.  Whatever else changes between two steps. -/
inductive Passage (registry : Registry) (l : Listener) (h : Handler) (r : Record) :
    List Mishap → List OutgoingRecord → Delivery → Prop where
  | start : Passage registry l h r [] [] (.start l r)
  | step {ms : List Mishap} {tried : List OutgoingRecord} {d d' : Delivery} {s' : Stage}
      (consumer : Option Nat) (choice : Choice) (s : Stage)
      (before : Passage registry l h r ms tried d) (unchanged : s.registry = registry)
      (taken : d.step? consumer l h r choice s = some (s', d')) :
      Passage registry l h r (d.mishaps s ++ ms) (tried ++ d.tries) d'

variable {registry : Registry} {l : Listener} {h : Handler} {r : Record} {ms : List Mishap}
  {tried : List OutgoingRecord} {d d' : Delivery} {consumer : Option Nat} {choice : Choice}
  {s s' : Stage}

/-- A step that hands nothing to the broker leaves it as it is. -/
theorem Move.broker (move : Move consumer l h r choice s d s' d') (htries : d.tries = []) :
    s'.broker = s.broker := by
  cases move with
  | called attempt => cases h <;> rfl
  | published due answer => cases htries
  | refused due answer left => cases htries
  | gaveUp due answer left => cases htries
  | _ => rfl

theorem Passage.course (passage : Passage registry l h r ms tried d) : Course l h r ms d := by
  induction passage with
  | start => exact .start
  | step consumer choice s _ _ taken ih => exact ih.step consumer choice s taken

/-- Nothing was handed to the broker before the decision to publish a copy; and a copy that is
published is no dropped record. -/
def Untried (tried : List OutgoingRecord) : Delivery → Prop
  | .calling _ | .handling _ _ _ | .resting _ _ | .ended (.ok .dropped) => tried = []
  | .publishing _ outcome _ _ => outcome ≠ .dropped
  | _ => True

theorem Untried.move (h₀ : Untried tried d) (move : Move consumer l h r choice s d s' d') :
    Untried (tried ++ d.tries) d' := by
  cases move with
  | called attempt =>
      rw [show tries (.calling attempt) = [] from rfl, List.append_nil]
      cases h <;> exact h₀
  | succeeded due => trivial
  | brokeDown due => trivial
  | again due verdict => exact (List.append_nil _).trans h₀
  | @finished attempt f wake result due verdict =>
      rcases Listener.of_verdict_finish verdict with rfl | ⟨e, _, rfl⟩
      · exact (List.append_nil _).trans h₀
      · trivial
  | republishing due verdict =>
      obtain ⟨next, _, _, _, _, rfl⟩ := Listener.of_verdict_republish verdict
      unfold Listener.outcomeOf
      show (if _ then _ else _) ≠ Outcome.dropped
      split
      · exact nofun
      · exact nofun
  | rested due => exact (List.append_nil _).trans h₀
  | @published out outcome failures wake broker due answer =>
      cases outcome with
      | dropped => exact absurd rfl h₀
      | _ => trivial
  | refused due answer left => exact h₀
  | gaveUp due answer left => trivial

/-- **Nothing is published and dropped.** -/
theorem Passage.untried (passage : Passage registry l h r ms tried d) : Untried tried d := by
  induction passage with
  | start => exact rfl
  | step consumer choice s _ _ taken ih => exact ih.move (Move.of_step taken)

/-- After the latest of some failures there is nowhere to put the record. -/
def Stranded (registry : Registry) (l : Listener) (r : Record) (ms : List Mishap) : Prop :=
  ∃ m rest, ms = m :: rest
    ∧ l.Drops registry r (l.firstAttempt r + UInt32.ofNat rest.length) m.failure m.time

/-- One step. -/
theorem dropped_iff_of_move (regular : s.registry.Regular) (untried : Untried tried d)
    (follows : Follows l r ms d)
    (hbefore : d = .ended (.ok .dropped) ↔ Stranded s.registry l r ms)
    (move : Move consumer l h r choice s d s' d') :
    d' = .ended (.ok .dropped) ↔ Stranded s.registry l r (d.mishaps s ++ ms) := by
  -- where no failure is taken, neither side can come to hold
  have hquiet : d.mishaps s = [] → d ≠ .ended (.ok .dropped) → d' ≠ .ended (.ok .dropped) →
      (d' = .ended (.ok .dropped) ↔ Stranded s.registry l r (d.mishaps s ++ ms)) := by
    intro hnone hd hd'
    rw [hnone, List.nil_append, ← hbefore]
    exact ⟨fun heq => absurd heq hd', fun heq => absurd heq hd⟩
  -- where one is taken, the verdict decides
  have hfailed : ∀ {attempt : UInt32} {f : Failure} {wake : Nat},
      d = .handling attempt (.failed f) wake →
      ((l.verdict s.registry s.clock.wall r attempt f).1 = .finish (.ok .dropped)
        ↔ Stranded s.registry l r (d.mishaps s ++ ms)) := by
    rintro attempt f wake rfl
    rw [Listener.verdict_dropped_iff regular, follows.1]
    constructor
    · intro hdrops
      exact ⟨⟨f, s.clock.wall⟩, ms, rfl, hdrops⟩
    · rintro ⟨m, rest, heq, hdrops⟩
      cases heq
      exact hdrops
  cases move with
  | called attempt =>
      refine hquiet rfl nofun ?_
      cases h <;> exact nofun
  | succeeded due => exact hquiet rfl nofun nofun
  | brokeDown due => exact hquiet rfl nofun nofun
  | again due verdict =>
      rw [← hfailed rfl, verdict]
      exact ⟨nofun, nofun⟩
  | finished due verdict =>
      rw [← hfailed rfl, verdict, Delivery.ended.injEq, Listener.Verdict.finish.injEq]
  | republishing due verdict =>
      rw [← hfailed rfl, verdict]
      exact ⟨nofun, nofun⟩
  | rested due => exact hquiet rfl nofun nofun
  | @published out outcome failures wake broker due answer =>
      refine hquiet rfl nofun fun heq => ?_
      cases heq
      exact untried rfl
  | refused due answer left => exact hquiet rfl nofun nofun
  | gaveUp due answer left => exact hquiet rfl nofun nofun

/-- **A delivery has dropped its record if and only if after the latest failure there was nowhere to
put it.** -/
theorem Passage.dropped_iff (regular : registry.Regular)
    (passage : Passage registry l h r ms tried d) :
    d = .ended (.ok .dropped) ↔ Stranded registry l r ms := by
  induction passage with
  | start =>
      constructor
      · intro heq
        cases heq
      · rintro ⟨m, rest, heq, _⟩
        cases heq
  | step consumer choice s before unchanged taken ih =>
      subst unchanged
      exact dropped_iff_of_move regular before.untried before.course.follows ih
        (Move.of_step taken)

end Delivery

/-! ## §4. Consumers and single deliveries. -/

namespace System

open Delivery

variable {s s' : System} {a : Action} {registry : Registry} {old : List JournalEntry}

/-- The chains of `registry` are in force.  Every delivery of a consumer is a passage, and so was
every one that was concluded since the journal was `old`. -/
structure Passing (registry : Registry) (old : List JournalEntry) (s : System) : Prop where
  inForce : s.registry = registry
  deliveries : ∀ (i : Nat) c r d, s.consumers[i]? = some c → c.phase = .delivering r d →
    ∃ ms tried, Passage registry c.listener c.handler r ms tried d
  concluded : ∃ later, s.journal = old ++ later ∧ ∀ entry ∈ later, ∀ r result,
    entry.event = .concluded r result → ∃ (i : Nat) (c : Consumer) (ms : List Mishap)
      (tried : List OutgoingRecord), entry.consumer = some i ∧ s.consumers[i]? = some c
        ∧ Passage registry c.listener c.handler r ms tried (.ended result)

theorem Opening.passing (h : s.Opening) : Passing s.registry s.journal s where
  inForce := rfl
  deliveries := by
    intro i c r d here phase
    obtain ⟨since, hpolling⟩ := h.polling c (List.mem_of_getElem? here)
    rw [hpolling] at phase
    cases phase
  concluded := ⟨[], (List.append_nil _).symm, fun entry hentry => by cases hentry⟩

/-- **One step.** -/
theorem Passing.step (h : Passing registry old s) (taken : s.step? a = some s')
    (hold : ∀ context, a ≠ .register context) : Passing registry old s' := by
  have step := Step.of_step taken
  refine ⟨?_, ?_, ?_⟩
  · rcases step.registry with hsame | ⟨context, ha, _⟩
    · exact hsame.trans h.inForce
    · exact absurd ha (hold context)
  · intro i c' r d here' phase'
    obtain ⟨since, hpolling⟩ | ⟨c, x, here, hx, goes, _⟩ := step.of_phase? (phase?_of_getElem? here')
    · rw [phase'] at hpolling
      cases hpolling
    · rw [here'] at hx
      cases hx
      rw [goes.listener, goes.handler]
      rcases goes.phase with hsame | ⟨b, entries, advance⟩
      · rw [hsame] at phase'
        exact h.deliveries i c r d here phase'
      · rcases advance.of_delivering phase' with rfl | ⟨d₀, choice, stage, phase, move⟩
        · exact ⟨[], [], .start⟩
        · obtain ⟨ms, tried, hbefore⟩ := h.deliveries i c r d₀ here phase
          exact ⟨_, _, hbefore.step _ _ _ h.inForce move.step?⟩
  · obtain ⟨later, hlater, hpassed⟩ := h.concluded
    obtain ⟨entries, hentries, hnew⟩ := step.journal
    refine ⟨later ++ entries, by rw [hentries, hlater, List.append_assoc], ?_⟩
    intro entry hentry r result hevent
    rcases List.mem_append.1 hentry with hold | hentry
    · obtain ⟨i, c, ms, tried, howner, here, hpassage⟩ := hpassed entry hold r result hevent
      obtain ⟨c', here', goes⟩ := step.consumer here
      refine ⟨i, c', ms, tried, howner, here', ?_⟩
      rw [goes.listener, goes.handler]
      exact hpassage
    · obtain ⟨i, c, howner, here, phase⟩ := hnew entry hentry r result hevent
      obtain ⟨ms, tried, hpassage⟩ := h.deliveries i c r _ here phase
      obtain ⟨c', here', goes⟩ := step.consumer here
      refine ⟨i, c', ms, tried, howner, here', ?_⟩
      rw [goes.listener, goes.handler]
      exact hpassage

/-- **A run.** -/
theorem Passing.run {actions : List Action} (h : Passing registry old s)
    (run : s.run actions = some s') (hold : ∀ context, .register context ∉ actions) :
    Passing registry old s' := by
  refine keeps_of_run run ?_ h
  rintro t t' a ha before taken
  refine before.step taken ?_
  rintro context rfl
  exact hold context ha

end System

namespace Simulation

open Delivery

variable {s : Simulation} {l : Listener} {h : Handler} {r : Record}

/-- **A delivery that is simulated by itself is a passage.** -/
theorem passage_of_deliverWithin {registry : Registry} (steps : Nat) {d : Delivery}
    {ms : List Mishap} {tried : List OutgoingRecord} (unchanged : s.registry = registry)
    (before : Passage registry l h r ms tried d) :
    ∃ ms' tried', Passage registry l h r ms' tried' (s.deliverWithin l h r d steps).2 := by
  induction steps generalizing s d ms tried with
  | zero => exact ⟨ms, tried, before⟩
  | succ steps ih =>
      unfold deliverWithin
      simp only
      split
      · rename_i stage next taken
        have hregistry : stage.registry = registry := by
          obtain ⟨entries, _, _, hstage⟩ := System.Move.stage_eq (Move.of_step taken)
          exact (congrArg Stage.registry hstage).trans unchanged
        refine ih ?_ (before.step none _ _ unchanged taken)
        split
        · rw [toSystem_calledWith]
          exact hregistry
        · exact hregistry
      · split
        · exact ih unchanged before
        · exact ⟨ms, tried, before⟩

theorem passage_of_process {result : Except Error Outcome}
    (hprocess : (s.process l h r).1 = some result) :
    ∃ ms tried, Passage s.registry l h r ms tried (.ended result) := by
  have hstart : Passage s.registry l h r [] [] (.start l r) := .start
  obtain ⟨ms, tried, hpassage⟩ := passage_of_deliverWithin patience rfl hstart
  have hresult : (s.deliverWithin l h r (.start l r) patience).2.result? = some result := hprocess
  refine ⟨ms, tried, ?_⟩
  unfold result? at hresult
  split at hresult
  · rename_i hended
    cases hresult
    rw [← hended]
    exact hpassage
  · cases hresult

end Simulation

/-! ## §5. No silent drop. -/

open Delivery in
/-- **A record is dropped exactly where its chain has nowhere to put it.**  With the chains of any
planning in force and unchanged, whatever else happens: a delivery ends with its record dropped if and
only if after the latest failure of the handler there was nowhere to put it.  Then no copy was handed
to the broker, and a step that hands it none leaves the broker alone.  Where the chain ends with a
dead-letter node, only that node drops records, and if dead letters are retried, only those whose
handler failed fatally.  These deliveries are those that consumers conclude in any run, and those that
are simulated by themselves. -/
theorem dropped_iff_nowhere_to_go (calls : List Planning.Call) {registry : Registry}
    (planned : registry = (Planning.run calls).registry) :
    (∀ l h r ms tried result, Passage registry l h r ms tried (.ended result) →
      (result = .ok .dropped ↔ Stranded registry l r ms)
      ∧ (result = .ok .dropped → tried = [])
      ∧ ∀ chain last, registry.chain? l.node.source = some chain → chain.terminal? = some last →
        last.role = .deadLetter → result = .ok .dropped →
        l.node.name = last.name ∧ (l.node ∈ chain.destinations → l.node = last)
        ∧ (last.retriesDeadLetters = true →
          ∃ m rest, ms = m :: rest ∧ chain.policy.classifier.isFatal m.failure = true))
    ∧ (∀ consumer l h r choice s d s' d', Delivery.step? consumer l h r choice s d = some (s', d') →
        d.tries = [] → s'.broker = s.broker)
    ∧ (∀ (s₀ s : System) actions, s₀.Opening → s₀.registry = registry → s₀.run actions = some s →
        (∀ context, .register context ∉ actions) → s.Passing registry s₀.journal)
    ∧ ∀ (s : Simulation) l h r result, s.registry = registry → (s.process l h r).1 = some result →
        ∃ ms tried, Passage registry l h r ms tried (.ended result) := by
  subst planned
  have regular : (Planning.run calls).registry.Regular := Planning.regular_of_chain?
  refine ⟨?_, ?_, ?_, ?_⟩
  · intro l h r ms tried result passage
    have hiff := passage.dropped_iff regular
    rw [Delivery.ended.injEq] at hiff
    refine ⟨hiff, ?_, ?_⟩
    · rintro rfl
      exact passage.untried
    · intro chain last hchain hlast hrole hdropped
      obtain ⟨main, retries, terminal, hregular⟩ := regular hchain
      obtain ⟨m, rest, hms, chain', p, node, hchain', hnode, hname, hdrops⟩ := hiff.1 hdropped
      rw [hchain] at hchain'
      cases hchain'
      cases hdrops with
      | noDeadLetters onward hlast' noTopic leads =>
          rw [hlast] at hlast'
          cases hlast'
          rw [hrole] at noTopic
          cases noTopic
      | deadLetter role final =>
          have hterminal := hregular.eq_terminal hnode (by rw [role]; rfl)
          rw [hregular.terminal?_eq] at hlast
          cases hlast
          subst hterminal
          refine ⟨hname.symm, fun hmem => ?_, fun hretries => ⟨m, rest, hms, ?_⟩⟩
          · obtain ⟨q, hq⟩ := List.getElem?_of_mem hmem
            by_contra hne
            have hpq : p ≠ q := by
              rintro rfl
              rw [hnode] at hq
              exact hne (Option.some.inj hq).symm
            exact hregular.name_ne hnode hq hpq hname.symm
          · rcases final with hfatal | hnever
            · exact hfatal
            · rw [hretries] at hnever
              cases hnever
  · intro consumer l h r choice s d s' d' taken htries
    exact (Move.of_step taken).broker htries
  · intro s₀ s actions opening hregistry run hold
    rw [← hregistry]
    exact opening.passing.run run hold
  · intro s l h r result hregistry hprocess
    rw [← hregistry]
    exact Simulation.passage_of_process hprocess

namespace Orders

/-- A chain without dead letters is built and put in force. -/
def dropping : List Planning.Call :=
  [.process 0 "orders" (Level.forChain [10] 1 false true) {} {}, .register 0]

/-- The chain: a main node, one retry node, and the node without a topic. -/
def shortChain : Chain := ((Planning.run dropping).registry.chain? "orders").getD default

/-- Serves the retry node. -/
def lastListener : Listener := { node := (shortChain.destinations[1]?).getD default }

/-- A simulation in which the handler always fails. -/
def failing : Simulation :=
  { registry := (Planning.run dropping).registry
    scripts := [("main", { rest := { result := .failed fault } })] }

end Orders

open Orders in
/-- A record that leaves the only retry node of a chain without dead letters is dropped. -/
theorem dropped_iff_nowhere_to_go_of_last :
    (failing.process lastListener (.named "main") { topic := "orders-retry" }).1
        = some (.ok .dropped)
      ∧ ∃ ms, Delivery.Stranded failing.registry lastListener { topic := "orders-retry" } ms := by
  have hprocess : (failing.process lastListener (.named "main") { topic := "orders-retry" }).1
      = some (.ok .dropped) := by
    decide +kernel
  have hall := dropped_iff_nowhere_to_go dropping rfl
  obtain ⟨ms, tried, hpassage⟩ := hall.2.2.2 failing _ _ _ _ rfl hprocess
  have hiff := hall.1 _ _ _ ms tried _ hpassage
  exact ⟨hprocess, ms, hiff.1.1 rfl⟩

end Redelivery
