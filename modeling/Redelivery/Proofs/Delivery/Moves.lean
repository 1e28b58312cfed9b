/-
  Redelivery.Proofs.Delivery.Moves
  ────────────────────────────────
  **What one step of a delivery can do.**

  Ten moves, one constructor each, with everything that a step reads and
  leaves behind.  The steps are the moves (`Move.of_step`, `Move.step?`);
  later proofs look at moves and never unfold `step?` again.

  A verdict has its own account, one rule for each answer of the registry
  (`ruling_verdict`), from which what a verdict implies is read back.
-/
import Redelivery.Delivery.Stage

namespace Redelivery

/-! ## §1. Verdicts. -/

namespace Listener

variable {l : Listener} {registry : Registry} {now : Int64} {r : Record} {attempt : UInt32}
  {f : Failure}

/-- The copy that goes to `next` after attempt number `attempt`. -/
def copyFor (l : Listener) (r : Record) (f : Failure) (attempt : UInt32) (now : Int64)
    (next : Destination) : OutgoingRecord :=
  l.outgoing r f next (if next.name = l.node.name then attempt + 1 else 1) now

/-- What the registry says about a failure of this listener. -/
def routed (l : Listener) (registry : Registry) (now : Int64) (r : Record) (attempt : UInt32)
    (f : Failure) : Except Error Destination :=
  registry.resolve l.node.source l.node.name attempt f
    (r.headers.getInt64? Headers.firstFailureTime) now

/-- Whether the next node is the listener's own, at which attempts are counted in place. -/
def staysInPlace (l : Listener) (next : Destination) : Bool :=
  next.name == l.node.name && !l.node.countsDeliveries

/-- A record that stays in place is handled again. -/
theorem verdict_of_again {next : Destination} (hr : l.routed registry now r attempt f = .ok next)
    (hs : l.staysInPlace next = true) : (l.verdict registry now r attempt f).1 = .again := by
  simp only [routed] at hr
  simp only [staysInPlace] at hs
  simp only [verdict, hr, hs, if_true]

/-- A record whose next node has no topic is dropped. -/
theorem verdict_of_noOps {next : Destination} (hr : l.routed registry now r attempt f = .ok next)
    (hs : l.staysInPlace next = false) (hn : next.isNoOps = true) :
    (l.verdict registry now r attempt f).1 = .finish (.ok .dropped) := by
  simp only [routed] at hr
  simp only [staysInPlace] at hs
  simp only [verdict, hr, hs, hn, if_true, Bool.false_eq_true, if_false]

/-- A record that leaves its place goes on as a copy. -/
theorem verdict_of_topic {next : Destination} (hr : l.routed registry now r attempt f = .ok next)
    (hs : l.staysInPlace next = false) (hn : next.isNoOps = false) :
    (l.verdict registry now r attempt f).1
      = .republish (l.copyFor r f attempt now next) (outcomeOf next) := by
  simp only [routed] at hr
  simp only [staysInPlace] at hs
  simp only [verdict, hr, hs, hn, Bool.false_eq_true, if_false, copyFor, beq_iff_eq]

/-- A record with nowhere left to go is dropped. -/
theorem verdict_of_fatal {topic : String} {reason : FatalReason}
    (hr : l.routed registry now r attempt f = .error (.fatal topic reason)) :
    (l.verdict registry now r attempt f).1 = .finish (.ok .dropped) := by
  simp only [routed] at hr
  simp only [verdict, hr]

/-- Any other error of the registry is that of the delivery. -/
theorem verdict_of_error {e : Error} (hr : l.routed registry now r attempt f = .error e)
    (hf : ∀ topic reason, e ≠ .fatal topic reason) :
    (l.verdict registry now r attempt f).1 = .finish (.error e) := by
  simp only [routed] at hr
  cases e with
  | fatal topic reason => exact absurd rfl (hf topic reason)
  | configuration fault => simp only [verdict, hr]
  | routing fault => simp only [verdict, hr]
  | retryable topic failure => simp only [verdict, hr]
  | bus error => simp only [verdict, hr]

/-- `Ruling l registry now r attempt f v`: the verdict `v` is the right one. -/
inductive Ruling (l : Listener) (registry : Registry) (now : Int64) (r : Record)
    (attempt : UInt32) (f : Failure) : Verdict → Prop where
  /-- The record stays, and attempts are counted in place. -/
  | again {next : Destination} (routed : l.routed registry now r attempt f = .ok next)
      (stays : l.staysInPlace next = true) : Ruling l registry now r attempt f .again
  /-- The next node has no topic. -/
  | noOps {next : Destination} (routed : l.routed registry now r attempt f = .ok next)
      (leaves : l.staysInPlace next = false) (noTopic : next.isNoOps = true) :
      Ruling l registry now r attempt f (.finish (.ok .dropped))
  /-- A copy goes to the topic of the next node. -/
  | topic {next : Destination} (routed : l.routed registry now r attempt f = .ok next)
      (leaves : l.staysInPlace next = false) (hasTopic : next.isNoOps = false) :
      Ruling l registry now r attempt f
        (.republish (l.copyFor r f attempt now next) (outcomeOf next))
  /-- The record has nowhere left to go. -/
  | fatal {topic : String} {reason : FatalReason}
      (routed : l.routed registry now r attempt f = .error (.fatal topic reason)) :
      Ruling l registry now r attempt f (.finish (.ok .dropped))
  /-- The registry cannot say where the record goes. -/
  | error {e : Error} (routed : l.routed registry now r attempt f = .error e) :
      Ruling l registry now r attempt f (.finish (.error e))

/-- **Every verdict has its rule.** -/
theorem ruling_verdict : Ruling l registry now r attempt f (l.verdict registry now r attempt f).1 := by
  cases hr : l.routed registry now r attempt f with
  | error e =>
      by_cases hf : ∃ topic reason, e = .fatal topic reason
      · obtain ⟨topic, reason, rfl⟩ := hf
        rw [verdict_of_fatal hr]
        exact .fatal hr
      · rw [verdict_of_error hr fun topic reason he => hf ⟨topic, reason, he⟩]
        exact .error hr
  | ok next =>
      cases hs : l.staysInPlace next with
      | true =>
          rw [verdict_of_again hr hs]
          exact .again hr hs
      | false =>
          cases hn : next.isNoOps with
          | true =>
              rw [verdict_of_noOps hr hs hn]
              exact .noOps hr hs hn
          | false =>
              rw [verdict_of_topic hr hs hn]
              exact .topic hr hs hn

/-- The handler is called again only where attempts are counted in place. -/
theorem of_verdict_again (hv : (l.verdict registry now r attempt f).1 = .again) :
    l.node.countsDeliveries = false := by
  have hrule : Ruling l registry now r attempt f _ := ruling_verdict
  rw [hv] at hrule
  cases hrule with
  | again _ stays =>
      rw [staysInPlace, Bool.and_eq_true, Bool.not_eq_true'] at stays
      exact stays.2

/-- **A copy is published only to a node with a topic that the registry named; it stays on the
listener's topic only where deliveries are counted.** -/
theorem of_verdict_republish {out : OutgoingRecord} {outcome : Outcome}
    (hv : (l.verdict registry now r attempt f).1 = .republish out outcome) :
    ∃ next, l.routed registry now r attempt f = .ok next ∧ l.staysInPlace next = false
      ∧ next.isNoOps = false ∧ out = l.copyFor r f attempt now next ∧ outcome = outcomeOf next := by
  have hrule : Ruling l registry now r attempt f _ := ruling_verdict
  rw [hv] at hrule
  cases hrule with
  | @topic next routed leaves hasTopic => exact ⟨next, routed, leaves, hasTopic, rfl, rfl⟩

/-- **A verdict ends a delivery by dropping the record, or with the error of the registry.** -/
theorem of_verdict_finish {result : Except Error Outcome}
    (hv : (l.verdict registry now r attempt f).1 = .finish result) :
    result = .ok .dropped
      ∨ ∃ e, l.routed registry now r attempt f = .error e ∧ result = .error e := by
  have hrule : Ruling l registry now r attempt f _ := ruling_verdict
  rw [hv] at hrule
  cases hrule with
  | noOps _ _ _ => exact Or.inl rfl
  | fatal _ => exact Or.inl rfl
  | error routed => exact Or.inr ⟨_, routed, rfl⟩

end Listener

/-! ## §2. Moves. -/

namespace Delivery

/-- `Move consumer l h r choice s d s' d'`: a step takes a delivery from `d` on the stage `s` to `d'`
on the stage `s'`. -/
inductive Move (consumer : Option Nat) (l : Listener) (h : Handler) (r : Record) (choice : Choice)
    (s : Stage) : Delivery → Stage → Delivery → Prop where
  /-- The handler is called. -/
  | called (attempt : UInt32) : Move consumer l h r choice s (.calling attempt)
      (call consumer h r attempt choice s).1 (call consumer h r attempt choice s).2
  | succeeded {attempt : UInt32} {wake : Nat} (due : wake ≤ s.clock.elapsed) :
      Move consumer l h r choice s (.handling attempt .succeeded wake) s (.ended (.ok .processed))
  | brokeDown {attempt : UInt32} {wake : Nat} (due : wake ≤ s.clock.elapsed) :
      Move consumer l h r choice s (.handling attempt .brokeDown wake) s .brokeDown
  /-- The failed handler is to be called again in place. -/
  | again {attempt : UInt32} {f : Failure} {wake : Nat} (due : wake ≤ s.clock.elapsed)
      (verdict : (l.verdict s.registry s.clock.wall r attempt f).1 = .again) :
      Move consumer l h r choice s (.handling attempt (.failed f) wake)
        (s.note consumer ((l.verdict s.registry s.clock.wall r attempt f).2.toList.map .logged))
        (.resting (attempt + 1) (s.clock.elapsed + l.blockingInterval.toNat))
  /-- The failure ends the delivery. -/
  | finished {attempt : UInt32} {f : Failure} {wake : Nat} {result : Except Error Outcome}
      (due : wake ≤ s.clock.elapsed)
      (verdict : (l.verdict s.registry s.clock.wall r attempt f).1 = .finish result) :
      Move consumer l h r choice s (.handling attempt (.failed f) wake)
        (s.note consumer ((l.verdict s.registry s.clock.wall r attempt f).2.toList.map .logged))
        (.ended result)
  /-- A copy is to be published. -/
  | republishing {attempt : UInt32} {f : Failure} {wake : Nat} {out : OutgoingRecord}
      {outcome : Outcome} (due : wake ≤ s.clock.elapsed)
      (verdict : (l.verdict s.registry s.clock.wall r attempt f).1 = .republish out outcome) :
      Move consumer l h r choice s (.handling attempt (.failed f) wake)
        (s.note consumer ((l.verdict s.registry s.clock.wall r attempt f).2.toList.map .logged))
        (.publishing out outcome 0 s.clock.elapsed)
  | rested {attempt : UInt32} {wake : Nat} (due : wake ≤ s.clock.elapsed) :
      Move consumer l h r choice s (.resting attempt wake) s (.calling attempt)
  /-- The copy is on its topic. -/
  | published {out : OutgoingRecord} {outcome : Outcome} {failures wake : Nat} {broker : Broker}
      (due : wake ≤ s.clock.elapsed)
      (answer : s.broker.publish out s.clock.wall = (.ok (), broker)) :
      Move consumer l h r choice s (.publishing out outcome failures wake)
        { s with broker := broker } (.ended (.ok outcome))
  /-- Publishing failed and is tried again after a pause. -/
  | refused {out : OutgoingRecord} {outcome : Outcome} {failures wake pause : Nat}
      {broker : Broker} {e : BusError} (due : wake ≤ s.clock.elapsed)
      (answer : s.broker.publish out s.clock.wall = (.error e, broker))
      (left : l.republish.pause? failures choice.jitter = some pause) :
      Move consumer l h r choice s (.publishing out outcome failures wake)
        { s with broker := broker } (.publishing out outcome (failures + 1) (s.clock.elapsed + pause))
  /-- Publishing failed for the last time. -/
  | gaveUp {out : OutgoingRecord} {outcome : Outcome} {failures wake : Nat} {broker : Broker}
      {e : BusError} (due : wake ≤ s.clock.elapsed)
      (answer : s.broker.publish out s.clock.wall = (.error e, broker))
      (left : l.republish.pause? failures choice.jitter = none) :
      Move consumer l h r choice s (.publishing out outcome failures wake)
        { s with broker := broker }
        (.ended (.error (.fatal l.node.name (.notRepublished out.topic e))))

variable {consumer : Option Nat} {l : Listener} {h : Handler} {r : Record} {choice : Choice}
  {s s' : Stage} {d d' : Delivery}

/-- Taking the reply of a handler is a move. -/
theorem conclude_move (attempt : UInt32) (result : HandlerResult) {wake : Nat}
    (due : wake ≤ s.clock.elapsed) :
    Move consumer l h r choice s (.handling attempt result wake)
      (conclude consumer l r attempt result s).1 (conclude consumer l r attempt result s).2 := by
  cases result with
  | succeeded => exact .succeeded due
  | brokeDown => exact .brokeDown due
  | failed f =>
      simp only [conclude]
      cases hv : (l.verdict s.registry s.clock.wall r attempt f).1 with
      | again => exact .again due hv
      | finish result => exact .finished due hv
      | republish out outcome => exact .republishing due hv

/-- Trying to publish a copy is a move. -/
theorem publish_move (out : OutgoingRecord) (outcome : Outcome) (failures : Nat) {wake : Nat}
    (due : wake ≤ s.clock.elapsed) :
    Move consumer l h r choice s (.publishing out outcome failures wake)
      (publish l out outcome failures choice s).1 (publish l out outcome failures choice s).2 := by
  cases ha : s.broker.publish out s.clock.wall with
  | mk answer broker =>
      cases answer with
      | ok u =>
          simp only [publish, ha]
          exact .published due ha
      | error e =>
          simp only [publish, ha]
          cases hp : l.republish.pause? failures choice.jitter with
          | some pause => exact .refused due ha hp
          | none => exact .gaveUp due ha hp

/-- **Every step is a move.** -/
theorem Move.of_step (hd : d.step? consumer l h r choice s = some (s', d')) :
    Move consumer l h r choice s d s' d' := by
  cases d with
  | calling attempt =>
      -- a call is made at any time; all other steps wait for theirs
      injection hd with hd
      have hm : Move consumer l h r choice s _ _ _ := .called attempt
      rw [hd] at hm
      exact hm
  | handling attempt result wake =>
      simp only [step?, Option.ite_none_right_eq_some, Option.some.injEq] at hd
      have hm : Move consumer l h r choice s _ _ _ := conclude_move attempt result hd.1
      rw [hd.2] at hm
      exact hm
  | resting attempt wake =>
      simp only [step?, Option.ite_none_right_eq_some, Option.some.injEq, Prod.mk.injEq] at hd
      obtain ⟨due, rfl, rfl⟩ := hd
      exact .rested due
  | publishing out outcome failures wake =>
      simp only [step?, Option.ite_none_right_eq_some, Option.some.injEq] at hd
      have hm : Move consumer l h r choice s _ _ _ := publish_move out outcome failures hd.1
      rw [hd.2] at hm
      exact hm
  | ended result => cases hd
  | brokeDown => cases hd

/-- **Every move is a step.** -/
theorem Move.step? (move : Move consumer l h r choice s d s' d') :
    d.step? consumer l h r choice s = some (s', d') := by
  cases move with
  | called attempt => rfl
  | succeeded due => exact if_pos due
  | brokeDown due => exact if_pos due
  | again due verdict =>
      refine (if_pos due).trans ?_
      simp only [conclude, verdict]
  | finished due verdict =>
      refine (if_pos due).trans ?_
      simp only [conclude, verdict]
  | republishing due verdict =>
      refine (if_pos due).trans ?_
      simp only [conclude, verdict]
  | rested due => exact if_pos due
  | published due answer =>
      refine (if_pos due).trans ?_
      simp only [publish, answer]
  | refused due answer left =>
      refine (if_pos due).trans ?_
      simp only [publish, answer, left]
  | gaveUp due answer left =>
      refine (if_pos due).trans ?_
      simp only [publish, answer, left]

end Delivery

end Redelivery
