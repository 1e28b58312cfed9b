/-
  Redelivery.Proofs.Delivery.Sessions
  ───────────────────────────────────
  **What becomes of one record.**

  A session is a delivery with its story: each trial of the handler, with the
  times of the call and of the reply, and each copy that was offered to the
  broker, with the answer.  What may happen between two steps is a parameter.

      s₀ ┄┄around┄┄▶ t ──step──▶ s ┄┄around┄┄▶ t' ──step──▶ s' …

  The last trial says how a session ends (`Conclusion`): a session whose
  handler succeeded has offered nothing, and one that failed has offered
  copies for one node only, the one that the registry named.
-/
import Redelivery.Proofs.System.Dropping
import Redelivery.Proofs.System.Errors

namespace Redelivery

/-! ## §1. Sessions. -/

/-- When steps are taken. -/
inductive Pace where
  /-- As soon as they can be. -/
  | prompt
  /-- Then, or at any later time. -/
  | any
  deriving DecidableEq, Repr

/-- What can be done at time `due` may be done at time `taken`. -/
def Pace.Allows : Pace → (due taken : Nat) → Prop
  | .prompt, due, taken => due = taken
  | .any, due, taken => due ≤ taken

namespace Pace

variable {pace : Pace} {a b c : Nat}

theorem allows_refl (pace : Pace) (a : Nat) : pace.Allows a a := by
  cases pace with
  | prompt => rfl
  | any => exact Nat.le_refl a

theorem Allows.trans (h : pace.Allows a b) (h' : pace.Allows b c) : pace.Allows a c := by
  cases pace with
  | prompt => exact Eq.trans h h'
  | any => exact Nat.le_trans h h'

theorem Allows.le (h : pace.Allows a b) : a ≤ b := by
  cases pace with
  | prompt => exact Nat.le_of_eq h
  | any => exact h

end Pace

/-- One call of a handler, and its reply. -/
structure Trial where
  /-- The number of the attempt. -/
  attempt : UInt32
  /-- When the handler was called. -/
  called : Nat
  result : HandlerResult
  /-- The clock when the reply was taken. -/
  clock : Clock
  deriving DecidableEq, Repr

/-- A copy that was offered to the broker, and the answer. -/
structure Offer where
  copy : OutgoingRecord
  answer : Except BusError Unit

namespace Delivery

/-- The trials that a step on the stage `t` completes, the latest step before it at `called`. -/
def trials (called : Nat) (t : Stage) : Delivery → List Trial
  | .handling attempt result _ => [⟨attempt, called, result, t.clock⟩]
  | _ => []

/-- The copies that a step on the stage `t` offers to the broker. -/
def offers (t : Stage) : Delivery → List Offer
  | .publishing out _ _ _ => [⟨out, (t.broker.publish out t.clock.wall).1⟩]
  | _ => []

theorem offers_publishing {t : Stage} {out : OutgoingRecord} {answer : Except BusError Unit}
    {broker : Broker} (h : t.broker.publish out t.clock.wall = (answer, broker)) (outcome : Outcome)
    (failures wake : Nat) : offers t (.publishing out outcome failures wake) = [⟨out, answer⟩] := by
  show [(⟨out, (t.broker.publish out t.clock.wall).1⟩ : Offer)] = _
  rw [h]

/-- The earliest time of the next step, the latest step having been taken at `since`. -/
def dueTime (since : Nat) (d : Delivery) : Nat := max since (d.wake?.getD 0)

/-- What must not happen before the next step of a delivery: no other chain is put in force for the
source topic of its listener, and the clock does not go back.  Everything else is free. -/
structure Around (l : Listener) (pace : Pace) (d : Delivery) (s t : Stage) : Prop where
  chain : t.registry.chain? l.node.source = s.registry.chain? l.node.source
  time : pace.Allows (d.dueTime s.clock.elapsed) t.clock.elapsed

/-- `Session around l h r s₀ trials offers s d`: from the stage `s₀` on, a delivery of `r` has come to
`d` by these trials and offers, the oldest first, and left the stage `s` behind at its latest step. -/
inductive Session (around : Delivery → Stage → Stage → Prop) (l : Listener) (h : Handler)
    (r : Record) (s₀ : Stage) : List Trial → List Offer → Stage → Delivery → Prop where
  | start : Session around l h r s₀ [] [] s₀ (.start l r)
  | step {trials : List Trial} {offers : List Offer} {s t s' : Stage} {d d' : Delivery}
      (consumer : Option Nat) (choice : Choice) (before : Session around l h r s₀ trials offers s d)
      (between : around d s t) (taken : d.step? consumer l h r choice t = some (s', d')) :
      Session around l h r s₀ (trials ++ d.trials s.clock.elapsed t) (offers ++ d.offers t) s' d'

variable {around around' : Delivery → Stage → Stage → Prop} {pace : Pace} {l : Listener}
  {h : Handler} {r : Record} {s₀ s t s' : Stage} {trials : List Trial} {offers : List Offer}
  {d d' : Delivery} {consumer : Option Nat} {choice : Choice}

/-- Less may happen around a session. -/
theorem Session.mono (session : Session around l h r s₀ trials offers s d)
    (weaker : ∀ d s t, around d s t → around' d s t) :
    Session around' l h r s₀ trials offers s d := by
  induction session with
  | start => exact .start
  | step consumer choice _ between taken ih =>
      exact ih.step consumer choice (weaker _ _ _ between) taken

/-- A step keeps the chains in force and takes no time. -/
theorem Move.stage (move : Move consumer l h r choice s d s' d') :
    s'.registry = s.registry ∧ s'.clock = s.clock := by
  obtain ⟨entries, _, _, hstage⟩ := System.Move.stage_eq move
  rw [hstage]
  exact ⟨rfl, rfl⟩

/-- The chain of the listener's source topic stays in force. -/
theorem Session.chain (session : Session (Around l pace) l h r s₀ trials offers s d) :
    s.registry.chain? l.node.source = s₀.registry.chain? l.node.source := by
  induction session with
  | start => rfl
  | step consumer choice _ between taken ih =>
      rw [(Move.of_step taken).stage.1]
      exact between.chain.trans ih

end Delivery

/-! ## §2. Listeners of a chain in force. -/

/-- A main or retry node that is not shared: attempts are counted in place. -/
def Destination.isPlain (d : Destination) : Bool := !d.role.isTerminal && !d.reusable

section Plain

variable {d : Destination}

theorem Destination.isPlain_iff : d.isPlain = true ↔ d.role.isTerminal = false ∧ d.reusable = false := by
  unfold isPlain
  rw [Bool.and_eq_true, Bool.not_eq_true', Bool.not_eq_true']

theorem Destination.not_countsDeliveries_of_plain (plain : d.isPlain = true) :
    d.countsDeliveries = false := by
  obtain ⟨hrole, hreusable⟩ := isPlain_iff.1 plain
  unfold countsDeliveries isDeadLetter
  rw [hreusable]
  cases hcase : d.role with
  | deadLetter =>
      rw [hcase] at hrole
      cases hrole
  | _ => rfl

/-- A node that does not count deliveries is plain, or has no topic. -/
theorem Destination.plain_or_noOps (h : d.countsDeliveries = false) :
    d.isPlain = true ∨ d.role = .noOps := by
  unfold countsDeliveries isDeadLetter at h
  obtain ⟨hreusable, hdead⟩ := Bool.or_eq_false_iff.1 h
  rw [isPlain_iff]
  cases hcase : d.role with
  | main => exact Or.inl ⟨rfl, hreusable⟩
  | retry => exact Or.inl ⟨rfl, hreusable⟩
  | deadLetter =>
      rw [hcase] at hdead
      cases hdead
  | noOps => exact Or.inr rfl

end Plain

/-- Where a record goes is read off the chain of the source topic. -/
theorem Listener.routed_congr {l : Listener} {registry registry' : Registry} {now : Int64}
    {r : Record} {attempt : UInt32} {f : Failure}
    (same : registry'.chain? l.node.source = registry.chain? l.node.source) :
    l.routed registry' now r attempt f = l.routed registry now r attempt f := by
  unfold routed Registry.resolve
  rw [same]

/-- The listener serves the node at place `p` of the chain in force for its source topic. -/
structure Listener.Serves (l : Listener) (registry : Registry) (chain : Chain) (p : Nat) : Prop where
  inForce : registry.chain? l.node.source = some chain
  regular : ∃ main retries terminal, chain.Regular main retries terminal
  place : chain.destinations[p]? = some l.node

namespace Chain.Regular

variable {chain : Chain} {main terminal node : Destination} {retries : List Destination} {p : Nat}

/-- Only the first node of a chain is a main node. -/
theorem eq_zero_of_main (h : chain.Regular main retries terminal)
    (hnode : chain.destinations[p]? = some node) (hrole : node.role = .main) : p = 0 := by
  cases p with
  | zero => rfl
  | succ q =>
      rw [h.nodes, List.cons_append, List.getElem?_cons_succ] at hnode
      rcases List.mem_append.1 (List.mem_of_getElem? hnode) with hretry | hlast
      · have hother := h.retry_roles node hretry
        rw [hrole] at hother
        cases hother
      · have hother := h.terminal_role
        rw [← List.mem_singleton.1 hlast, hrole] at hother
        cases hother

/-- It counts its attempts in place. -/
theorem not_countsDeliveries_of_main (h : chain.Regular main retries terminal)
    (hnode : chain.destinations[p]? = some node) (hrole : node.role = .main) :
    node.countsDeliveries = false := by
  rw [h.eq_zero_of_main hnode hrole, h.nodes, List.cons_append, List.getElem?_cons_zero] at hnode
  cases hnode
  unfold Destination.countsDeliveries Destination.isDeadLetter
  rw [h.main_plain, hrole]
  rfl

end Chain.Regular

namespace Listener.Serves

variable {l : Listener} {registry : Registry} {chain : Chain} {p : Nat} {r : Record}
  {attempt : UInt32} {f : Failure} {now : Int64} {next : Destination}

theorem of_chain (serves : l.Serves registry chain p) {registry' : Registry}
    (same : registry'.chain? l.node.source = registry.chain? l.node.source) :
    l.Serves registry' chain p :=
  ⟨same.trans serves.inForce, serves.regular, serves.place⟩

/-- On a node without a topic no record can fail. -/
theorem of_noOps (serves : l.Serves registry chain p) (hrole : l.node.role = .noOps) :
    l.routed registry now r attempt f = .error (.routing (.failedOnNoOps l.node.source)) := by
  obtain ⟨main, retries, terminal, hregular⟩ := serves.regular
  unfold Listener.routed
  rw [Registry.resolve_of_node serves.inForce hregular.nodup_names serves.place, hrole]

/-- **The errors of the registry**: the record has nowhere left to go, or it failed on a node without a
topic. -/
theorem of_error (serves : l.Serves registry chain p) {e : Error}
    (routed : l.routed registry now r attempt f = .error e) :
    (∃ reason, e = .fatal l.node.name reason)
      ∨ l.node.role = .noOps ∧ e = .routing (.failedOnNoOps l.node.source) := by
  cases htopic : l.node.hasTopic with
  | true =>
      obtain ⟨main, retries, terminal, hregular⟩ := serves.regular
      have hforce : registry.InForce l.node :=
        ⟨htopic, chain, main, retries, terminal, serves.inForce, hregular,
          List.mem_of_getElem? serves.place⟩
      exact Or.inl (hforce.of_error routed)
  | false =>
      unfold Destination.hasTopic Destination.isNoOps at htopic
      rw [Bool.not_eq_false', beq_iff_eq] at htopic
      rw [serves.of_noOps htopic] at routed
      cases routed
      exact Or.inr ⟨htopic, rfl⟩

/-- A record that may go on failed on a dead-letter node or on one that has a next one. -/
theorem role_of_ok (serves : l.Serves registry chain p)
    (routed : l.routed registry now r attempt f = .ok next) :
    l.node.role = .deadLetter ∨ l.node.role.isTerminal = false := by
  cases hrole : l.node.role with
  | main => exact Or.inr rfl
  | retry => exact Or.inr rfl
  | deadLetter => exact Or.inl rfl
  | noOps =>
      rw [serves.of_noOps hrole] at routed
      cases routed

/-- A dead letter that may go on goes back to its node. -/
theorem of_deadLetter (serves : l.Serves registry chain p) (hrole : l.node.role = .deadLetter)
    (routed : l.routed registry now r attempt f = .ok next) : next = l.node := by
  obtain ⟨main, retries, terminal, hregular⟩ := serves.regular
  unfold Listener.routed at routed
  rcases Registry.resolve_deadLetter serves.inForce hregular serves.place hrole attempt f
    (r.headers.getInt64? Headers.firstFailureTime) now with hstays | ⟨reason, hfatal⟩
  · rw [hstays] at routed
    cases routed
    rfl
  · rw [hfatal] at routed
    cases routed

/-- **A copy goes to a retry topic or to the dead-letter topic.** -/
theorem role_of_routed (serves : l.Serves registry chain p)
    (routed : l.routed registry now r attempt f = .ok next) (leaves : l.staysInPlace next = false)
    (hasTopic : next.isNoOps = false) : next.role = .retry ∨ next.role = .deadLetter := by
  rcases serves.role_of_ok routed with hdead | honward
  · rw [serves.of_deadLetter hdead routed]
    exact Or.inr hdead
  · obtain ⟨main, retries, terminal, hregular⟩ := serves.regular
    obtain ⟨q, next', hnext', hq, hle, _⟩ := Registry.resolve_onward serves.inForce hregular
      serves.place honward attempt f (r.headers.getInt64? Headers.firstFailureTime) now
    rw [show l.routed registry now r attempt f = .ok next' from hnext'] at routed
    cases routed
    cases hrole : next.role with
    | retry => exact Or.inl rfl
    | deadLetter => exact Or.inr rfl
    | noOps =>
        unfold Destination.isNoOps at hasTopic
        rw [hrole] at hasTopic
        cases hasTopic
    | main =>
        -- a record that comes to the main node was there, and is kept in place
        have hzero := hregular.eq_zero_of_main hq hrole
        have hp : p = 0 := by omega
        rw [hzero] at hq
        have hnode := serves.place
        rw [hp, hq] at hnode
        cases hnode
        have hplain : l.node.countsDeliveries = false := hregular.not_countsDeliveries_of_main hq hrole
        rw [Listener.staysInPlace, hplain, beq_self_eq_true] at leaves
        cases leaves

end Listener.Serves

/-! ## §3. How sessions end. -/

section Outcome

variable {next : Destination}

theorem Listener.outcomeOf_of_retry (h : next.role = .retry) :
    outcomeOf next = .forwarded next.name := by
  unfold outcomeOf Destination.isDeadLetter
  rw [h]
  rfl

theorem Listener.outcomeOf_of_deadLetter (h : next.role = .deadLetter) :
    outcomeOf next = .deadLettered next.name :=
  if_pos (beq_iff_eq.2 h)

end Outcome

/-- A copy that was refused time after time. -/
def Offer.refusals (copy : OutgoingRecord) (errors : List BusError) : List Offer :=
  errors.map fun e => ⟨copy, .error e⟩

theorem Offer.refusals_concat (copy : OutgoingRecord) (errors : List BusError) (e : BusError) :
    refusals copy (errors ++ [e]) = refusals copy errors ++ [⟨copy, .error e⟩] := by
  unfold refusals
  rw [List.map_append]
  rfl

namespace Delivery

/-- `Conclusion l registry r x offers result`: after the last trial `x`, these offers and this result are
right. -/
inductive Conclusion (l : Listener) (registry : Registry) (r : Record) (x : Trial) :
    List Offer → Except Error Outcome → Prop where
  | processed (succeeded : x.result = .succeeded) :
      Conclusion l registry r x [] (.ok .processed)
  /-- The record has nowhere left to go. -/
  | stranded {f : Failure} {topic : String} {reason : FatalReason} (failed : x.result = .failed f)
      (routed : l.routed registry x.clock.wall r x.attempt f = .error (.fatal topic reason)) :
      Conclusion l registry r x [] (.ok .dropped)
  /-- The record should never have come to this node. -/
  | misplaced {f : Failure} (failed : x.result = .failed f)
      (routed : l.routed registry x.clock.wall r x.attempt f
        = .error (.routing (.failedOnNoOps l.node.source)))
      (role : l.node.role = .noOps) :
      Conclusion l registry r x [] (.error (.routing (.failedOnNoOps l.node.source)))
  /-- The next node has no topic. -/
  | dropped {f : Failure} {next : Destination} (failed : x.result = .failed f)
      (routed : l.routed registry x.clock.wall r x.attempt f = .ok next)
      (role : next.role = .noOps) : Conclusion l registry r x [] (.ok .dropped)
  /-- After some refusals the copy is on a retry topic. -/
  | forwarded {f : Failure} {next : Destination} (errors : List BusError)
      (failed : x.result = .failed f)
      (routed : l.routed registry x.clock.wall r x.attempt f = .ok next)
      (role : next.role = .retry) :
      Conclusion l registry r x
        (Offer.refusals (l.copyFor r f x.attempt x.clock.wall next) errors
          ++ [⟨l.copyFor r f x.attempt x.clock.wall next, .ok ()⟩])
        (.ok (.forwarded next.name))
  /-- After some refusals the copy is on the dead-letter topic. -/
  | deadLettered {f : Failure} {next : Destination} (errors : List BusError)
      (failed : x.result = .failed f)
      (routed : l.routed registry x.clock.wall r x.attempt f = .ok next)
      (role : next.role = .deadLetter) :
      Conclusion l registry r x
        (Offer.refusals (l.copyFor r f x.attempt x.clock.wall next) errors
          ++ [⟨l.copyFor r f x.attempt x.clock.wall next, .ok ()⟩])
        (.ok (.deadLettered next.name))
  /-- The copy was refused as often as it may be offered. -/
  | refused {f : Failure} {next : Destination} (errors : List BusError) (e : BusError)
      (failed : x.result = .failed f)
      (routed : l.routed registry x.clock.wall r x.attempt f = .ok next)
      (role : next.role = .retry ∨ next.role = .deadLetter) :
      Conclusion l registry r x
        (Offer.refusals (l.copyFor r f x.attempt x.clock.wall next) (errors ++ [e]))
        (.error (.fatal l.node.name (.notRepublished next.name e)))

/-- What a story says about a delivery. -/
def Tells (l : Listener) (registry : Registry) (r : Record) (trials : List Trial)
    (offers : List Offer) : Delivery → Prop
  | .calling _ | .handling _ _ _ | .resting _ _ => offers = []
  | .publishing out outcome failures _ =>
      ∃ x f next errors, trials.getLast? = some x ∧ x.result = .failed f
        ∧ l.routed registry x.clock.wall r x.attempt f = .ok next
        ∧ (next.role = .retry ∨ next.role = .deadLetter)
        ∧ out = l.copyFor r f x.attempt x.clock.wall next ∧ outcome = Listener.outcomeOf next
        ∧ offers = Offer.refusals out errors ∧ errors.length = failures
  | .ended result => ∃ x, trials.getLast? = some x ∧ Conclusion l registry r x offers result
  | .brokeDown => offers = [] ∧ ∃ x, trials.getLast? = some x ∧ x.result = .brokeDown

variable {around : Delivery → Stage → Stage → Prop} {pace : Pace} {l : Listener}
  {h : Handler} {r : Record} {s₀ s t s' : Stage} {trials : List Trial} {offers : List Offer}
  {d d' : Delivery} {consumer : Option Nat} {choice : Choice} {registry : Registry} {chain : Chain}
  {p : Nat}

/-- **One step keeps the story right.** -/
theorem Tells.move (tells : Tells l registry r trials offers d) (serves : l.Serves registry chain p)
    (same : t.registry.chain? l.node.source = registry.chain? l.node.source) (called : Nat)
    (move : Move consumer l h r choice t d s' d') :
    Tells l registry r (trials ++ d.trials called t) (offers ++ d.offers t) d' := by
  cases move with
  | called attempt =>
      obtain rfl : offers = [] := tells
      cases h <;> rfl
  | succeeded due =>
      obtain rfl : offers = [] := tells
      exact ⟨_, List.getLast?_concat, .processed rfl⟩
  | brokeDown due => exact ⟨(List.append_nil _).trans tells, _, List.getLast?_concat, rfl⟩
  | again due verdict =>
      obtain rfl : offers = [] := tells
      rfl
  | @finished attempt f wake result due verdict =>
      obtain rfl : offers = [] := tells
      refine ⟨_, List.getLast?_concat, ?_⟩
      have hrule : Listener.Ruling l t.registry t.clock.wall r attempt f _ := Listener.ruling_verdict
      rw [verdict] at hrule
      cases hrule with
      | noOps routed leaves noTopic =>
          exact .dropped rfl ((Listener.routed_congr same).symm.trans routed) (beq_iff_eq.1 noTopic)
      | fatal routed => exact .stranded rfl ((Listener.routed_congr same).symm.trans routed)
      | error routed =>
          rcases (serves.of_chain same).of_error routed with ⟨reason, rfl⟩ | ⟨hrole, rfl⟩
          · -- by a fatal error a record is dropped
            rw [Listener.verdict_of_fatal routed] at verdict
            cases verdict
          · exact .misplaced rfl ((Listener.routed_congr same).symm.trans routed) hrole
  | @republishing attempt f wake out outcome due verdict =>
      obtain rfl : offers = [] := tells
      obtain ⟨next, routed, leaves, hasTopic, hout, houtcome⟩ :=
        Listener.of_verdict_republish verdict
      rw [Listener.routed_congr same] at routed
      exact ⟨_, f, next, [], List.getLast?_concat, rfl, routed,
        serves.role_of_routed routed leaves hasTopic, hout, houtcome, rfl, rfl⟩
  | rested due =>
      obtain rfl : offers = [] := tells
      rfl
  | @published out outcome failures wake broker due answer =>
      obtain ⟨x, f, next, errors, hlast, hfailed, routed, hrole, rfl, rfl, rfl, _⟩ := tells
      refine ⟨x, (congrArg _ (List.append_nil _)).trans hlast, ?_⟩
      rw [offers_publishing answer]
      rcases hrole with hretry | hdead
      · rw [Listener.outcomeOf_of_retry hretry]
        exact .forwarded errors hfailed routed hretry
      · rw [Listener.outcomeOf_of_deadLetter hdead]
        exact .deadLettered errors hfailed routed hdead
  | @refused out outcome failures wake pause broker e due answer left =>
      obtain ⟨x, f, next, errors, hlast, hfailed, routed, hrole, rfl, rfl, rfl, hlength⟩ := tells
      refine ⟨x, f, next, errors ++ [e], (congrArg _ (List.append_nil _)).trans hlast,
        hfailed, routed, hrole, rfl, rfl, ?_, ?_⟩
      · rw [offers_publishing answer, Offer.refusals_concat]
      · rw [List.length_append, hlength]
        rfl
  | @gaveUp out outcome failures wake broker e due answer left =>
      obtain ⟨x, f, next, errors, hlast, hfailed, routed, hrole, rfl, rfl, rfl, _⟩ := tells
      refine ⟨x, (congrArg _ (List.append_nil _)).trans hlast, ?_⟩
      rw [offers_publishing answer, ← Offer.refusals_concat]
      exact .refused errors e hfailed routed hrole

/-- **The story of a session is right**: the last trial says what is offered and how it ends. -/
theorem Session.tells (serves : l.Serves registry chain p)
    (same : s₀.registry.chain? l.node.source = registry.chain? l.node.source)
    (session : Session (Around l pace) l h r s₀ trials offers s d) :
    Tells l registry r trials offers d := by
  induction session with
  | start => exact (rfl : ([] : List Offer) = [])
  | step consumer choice before between taken ih =>
      have hsame := (between.chain.trans before.chain).trans same
      exact ih.move serves hsame _ (Move.of_step taken)

/-! ## §4. Deliveries that are simulated by themselves. -/

/-- Time passes as far as the delivery waits, and nothing else happens. -/
def Alone (d : Delivery) (s t : Stage) : Prop :=
  t = { s with clock := { s.clock with elapsed := d.dueTime s.clock.elapsed } }

theorem Alone.toAround (alone : Alone d s t) (l : Listener) (pace : Pace) : Around l pace d s t := by
  unfold Alone at alone
  subst alone
  exact ⟨rfl, pace.allows_refl _⟩

theorem alone_of_awake (awake : d.wake?.getD 0 ≤ s.clock.elapsed) : Alone d s s := by
  unfold Alone dueTime
  rw [Nat.max_eq_left awake]

/-- A step waits for no later time. -/
theorem awake_of_step (taken : d.step? consumer l h r choice s = some (s', d')) :
    d.wake?.getD 0 ≤ s.clock.elapsed := by
  cases Move.of_step taken with
  | called attempt => exact Nat.zero_le _
  | succeeded due => exact due
  | brokeDown due => exact due
  | again due verdict => exact due
  | finished due verdict => exact due
  | republishing due verdict => exact due
  | rested due => exact due
  | published due answer => exact due
  | refused due answer left => exact due
  | gaveUp due answer left => exact due

end Delivery

namespace Simulation

open Delivery

variable {l : Listener} {h : Handler} {r : Record} {s₀ t : Stage} {trials : List Trial}
  {offers : List Offer}

/-- **A delivery that is simulated by itself is a session.** -/
theorem session_of_deliverWithin (steps : Nat) : ∀ {s : Simulation} {d : Delivery}
    {trials : List Trial} {offers : List Offer} {t : Stage},
    Session Alone l h r s₀ trials offers t d → s.toStage = t ∨ Alone d t s.toStage →
    ∃ trials' offers' t', Session Alone l h r s₀ trials' offers' t' (s.deliverWithin l h r d steps).2
      ∧ ((s.deliverWithin l h r d steps).1.toStage = t'
        ∨ Alone (s.deliverWithin l h r d steps).2 t' (s.deliverWithin l h r d steps).1.toStage) := by
  induction steps with
  | zero => exact fun session here => ⟨_, _, _, session, here⟩
  | succ steps ih =>
      intro s d trials offers t session here
      unfold deliverWithin
      simp only
      split
      · rename_i stage next taken
        have halone : Alone d t s.toStage := by
          rcases here with rfl | halone
          · exact alone_of_awake (awake_of_step taken)
          · exact halone
        refine ih (session.step none _ halone taken) (Or.inl ?_)
        split
        · rw [toSystem_calledWith]
          rfl
        · rfl
      · split
        · rename_i wake hwake
          -- waiting twice comes to the same as waiting once
          refine ih session (Or.inr ?_)
          unfold Alone dueTime at here ⊢
          rw [hwake, Option.getD_some] at here ⊢
          show ({ s.toStage with clock := s.clock.moveTo wake } : Stage) = _
          rcases here with heq | heq
          · rw [heq]
            rfl
          · rw [heq]
            show ({ t with clock := { t.clock with elapsed := max (max t.clock.elapsed wake) wake } }
              : Stage) = _
            rw [Nat.max_assoc, Nat.max_self]
        · exact ⟨_, _, _, session, here⟩

theorem session_of_process {s : Simulation} {result : Except Error Outcome}
    (hprocess : (s.process l h r).1 = some result) :
    ∃ trials offers, Session Alone l h r s.toStage trials offers (s.process l h r).2.toStage
      (.ended result) := by
  obtain ⟨trials, offers, t, hsession, here⟩ :=
    session_of_deliverWithin (s := s) patience (.start (h := h) (r := r)) (Or.inl rfl)
  have hresult : (s.deliverWithin l h r (.start l r) patience).2.result? = some result := hprocess
  show ∃ trials offers, Session Alone l h r s.toStage trials offers
    (s.deliverWithin l h r (.start l r) patience).1.toStage (.ended result)
  generalize (s.deliverWithin l h r (.start l r) patience).2 = d at hsession here hresult
  generalize (s.deliverWithin l h r (.start l r) patience).1 = s' at here ⊢
  cases d with
  | ended result' =>
      cases hresult
      refine ⟨trials, offers, ?_⟩
      rcases here with rfl | halone
      · exact hsession
      · -- a delivery that is over waits for nothing
        have hstill : Alone (.ended result) t t := alone_of_awake (Nat.zero_le _)
        rw [show s'.toStage = t from halone.trans hstill.symm]
        exact hsession
  | _ => cases hresult

end Simulation

end Redelivery
