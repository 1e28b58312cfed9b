/-
  Redelivery.Proofs.Delivery.Course
  ─────────────────────────────────
  **The course of one delivery, whatever happens around it.**

  Between two steps of a delivery the clock moves, other consumers publish,
  chains are replaced.  A course therefore takes each step on a stage of its
  own.  It remembers the failures of the handler, the latest first, and they
  say how far the delivery has come (`Course.follows`).

  A hop is a course that comes to publish a copy, and the record that the
  broker makes of that copy.  Deliveries add nothing else to the logs.
-/
import Redelivery.Proofs.Bus.Logs
import Redelivery.Proofs.Delivery.Moves

namespace Redelivery

/-- A failed call: the failure, and the wall-clock time at which it was taken. -/
structure Mishap where
  failure : Failure
  time : Int64
  deriving DecidableEq, Repr

namespace Delivery

/-! ## §1. Courses. -/

/-- The failures that a step on the stage `s` takes: one if the handler's reply is a failure. -/
def mishaps (s : Stage) : Delivery → List Mishap
  | .handling _ (.failed f) _ => [⟨f, s.clock.wall⟩]
  | _ => []

/-- `Course l h r ms d`: a delivery of `r` can come to `d`, its handler having failed with `ms`,
the latest first.  Every step has a stage of its own. -/
inductive Course (l : Listener) (h : Handler) (r : Record) : List Mishap → Delivery → Prop where
  | start : Course l h r [] (.start l r)
  | step {ms : List Mishap} {d d' : Delivery} {s' : Stage} (consumer : Option Nat)
      (choice : Choice) (s : Stage) (before : Course l h r ms d)
      (taken : d.step? consumer l h r choice s = some (s', d')) :
      Course l h r (d.mishaps s ++ ms) d'

/-- What the failures so far say about a delivery. -/
def Follows (l : Listener) (r : Record) (ms : List Mishap) : Delivery → Prop
  | .calling attempt | .handling attempt _ _ | .resting attempt _ =>
      attempt = l.firstAttempt r + UInt32.ofNat ms.length
        ∧ (l.node.countsDeliveries = true → ms = [])
  | .publishing out outcome _ _ =>
      ∃ m rest registry next, ms = m :: rest
        ∧ (l.node.countsDeliveries = true → rest = [])
        ∧ l.routed registry m.time r (l.firstAttempt r + UInt32.ofNat rest.length) m.failure
            = .ok next
        ∧ l.staysInPlace next = false ∧ next.isNoOps = false
        ∧ out = l.copyFor r m.failure (l.firstAttempt r + UInt32.ofNat rest.length) m.time next
        ∧ outcome = Listener.outcomeOf next
  | .ended _ | .brokeDown => True

variable {l : Listener} {h : Handler} {r : Record} {ms : List Mishap} {d : Delivery}

theorem follows_start : Follows l r [] (.start l r) := by
  refine ⟨?_, fun _ => rfl⟩
  show l.firstAttempt r = l.firstAttempt r + 0
  rw [UInt32.add_zero]

/-- One step keeps the account. -/
theorem Follows.move {consumer : Option Nat} {choice : Choice} {s s' : Stage} {d' : Delivery}
    (hf : Follows l r ms d) (hm : Move consumer l h r choice s d s' d') :
    Follows l r (d.mishaps s ++ ms) d' := by
  cases hm with
  | called attempt =>
      cases h with
      | named name => exact hf
      | logging level => exact hf
  | succeeded due => trivial
  | brokeDown due => trivial
  | @again attempt f wake due verdict =>
      -- a node that counts deliveries never keeps a record in place
      have hplain := Listener.of_verdict_again verdict
      refine ⟨?_, fun hc => absurd hc (by rw [hplain]; exact Bool.false_ne_true)⟩
      show attempt + 1 = _
      rw [hf.1, mishaps, List.singleton_append, List.length_cons, UInt32.ofNat_add,
        UInt32.add_assoc]
      rfl
  | finished due verdict => trivial
  | @republishing attempt f wake out outcome due verdict =>
      -- the failure that is taken now is the one that the copy is for
      obtain ⟨next, routed, leaves, hasTopic, hout, houtcome⟩ :=
        Listener.of_verdict_republish verdict
      rw [hf.1] at routed hout
      exact ⟨⟨f, s.clock.wall⟩, ms, s.registry, next, rfl, hf.2, routed, leaves, hasTopic, hout,
        houtcome⟩
  | rested due => exact hf
  | published due answer => trivial
  | refused due answer left => exact hf
  | gaveUp due answer left => trivial

/-- **The failures of a course say how far it has come.** -/
theorem Course.follows (hc : Course l h r ms d) : Follows l r ms d := by
  induction hc with
  | start => exact follows_start
  | step consumer choice s _ taken ih => exact ih.move (Move.of_step taken)

/-! ## §2. What a failed call leads to. -/

section Failing

variable {name : String} {s : Stage} {attempt : UInt32} {f : Failure} {next : Destination}

/-- A called handler can fail. -/
theorem Course.fail (s : Stage) (f : Failure) (hc : Course l (.named name) r ms (.calling attempt)) :
    Course l (.named name) r ms (.handling attempt (.failed f) s.clock.elapsed) :=
  hc.step none { reply := { result := .failed f } } s rfl

/-- **A failure that keeps the record in place leads to the next call.** -/
theorem Course.again (hc : Course l (.named name) r ms (.calling attempt))
    (routed : l.routed s.registry s.clock.wall r attempt f = .ok next)
    (stays : l.staysInPlace next = true) :
    Course l (.named name) r (⟨f, s.clock.wall⟩ :: ms) (.calling (attempt + 1)) := by
  have hresting := (hc.fail s f).step none {} s
    (Move.again (Nat.le_refl _) (Listener.verdict_of_again routed stays)).step?
  -- the rest is over on a stage whose clock has reached its end
  let later : Stage :=
    { s with clock := { s.clock with elapsed := s.clock.elapsed + l.blockingInterval.toNat } }
  exact hresting.step none {} later (Move.rested (Nat.le_refl _)).step?

/-- **A failure that moves the record on leads to a copy.** -/
theorem Course.leave (hc : Course l (.named name) r ms (.calling attempt))
    (routed : l.routed s.registry s.clock.wall r attempt f = .ok next)
    (leaves : l.staysInPlace next = false) (hasTopic : next.isNoOps = false) :
    Course l (.named name) r (⟨f, s.clock.wall⟩ :: ms)
      (.publishing (l.copyFor r f attempt s.clock.wall next) (Listener.outcomeOf next) 0
        s.clock.elapsed) :=
  (hc.fail s f).step none {} s
    (Move.republishing (Nat.le_refl _) (Listener.verdict_of_topic routed leaves hasTopic)).step?

end Failing

end Delivery

/-! ## §3. Hops. -/

/-- `l.Hop ms r r'`: the listener takes the record `r` from its topic, its handler fails with `ms`,
the latest first, and `r'` is what the broker makes of the copy that the listener publishes. -/
def Listener.Hop (l : Listener) (ms : List Mishap) (r r' : Record) : Prop :=
  r.topic = l.node.name ∧
    ∃ h out outcome failures wake offset now,
      Delivery.Course l h r ms (.publishing out outcome failures wake)
        ∧ r' = Broker.stored out offset now

/-- `Trail r copies`: the first copy comes from `r` by a hop of some listener, and so does each
further copy from the one before it. -/
inductive Trail : Record → List Record → Prop where
  | nil {r : Record} : Trail r []
  | cons {l : Listener} {ms : List Mishap} {r r' : Record} {later : List Record}
      (hop : l.Hop ms r r') (onward : Trail r' later) : Trail r (r' :: later)

namespace Listener

variable {l : Listener} {ms : List Mishap} {r r' : Record}

/-- A record whose first call fails makes a hop, if the registry names another place for it. -/
theorem Hop.of_first {s : Stage} {f : Failure} {next : Destination} (offset : Nat) (now : Int64)
    (htopic : r.topic = l.node.name)
    (routed : l.routed s.registry s.clock.wall r (l.firstAttempt r) f = .ok next)
    (leaves : l.staysInPlace next = false) (hasTopic : next.isNoOps = false) :
    l.Hop [⟨f, s.clock.wall⟩] r
      (Broker.stored (l.copyFor r f (l.firstAttempt r) s.clock.wall next) offset now) :=
  ⟨htopic, .named "handler", _, _, _, _, offset, now,
    Delivery.Course.start.leave routed leaves hasTopic, rfl⟩

/-- **A hop publishes the copy for the latest failure.** -/
theorem Hop.copy (hop : l.Hop ms r r') :
    ∃ m rest next offset now, ms = m :: rest
      ∧ (l.node.countsDeliveries = true → rest = [])
      ∧ l.staysInPlace next = false
      ∧ r' = Broker.stored (l.copyFor r m.failure
          (l.firstAttempt r + UInt32.ofNat rest.length) m.time next) offset now := by
  obtain ⟨_, h, out, outcome, failures, wake, offset, now, course, hr'⟩ := hop
  obtain ⟨m, rest, registry, next, hms, hrest, _, leaves, _, hout, _⟩ := course.follows
  rw [hout] at hr'
  exact ⟨m, rest, next, offset, now, hms, hrest, leaves, hr'⟩

/-- **The copy of a hop is stored**: where the time of its publish has come and the broker takes it,
the delivery ends, and the copy is the last record of its topic. -/
theorem Hop.stored (hop : l.Hop ms r r') :
    ∃ h out outcome failures wake offset now,
      Delivery.Course l h r ms (.publishing out outcome failures wake)
        ∧ r' = Broker.stored out offset now
        ∧ ∀ consumer choice (s : Stage), wake ≤ s.clock.elapsed → s.clock.wall = now →
          (s.broker.records r'.topic).length = offset →
          (s.broker.publish out now).1 = .ok () →
          ∃ s', Delivery.step? consumer l h r choice s (.publishing out outcome failures wake)
              = some (s', .ended (.ok outcome))
            ∧ s'.broker.records r'.topic = s.broker.records r'.topic ++ [r'] := by
  obtain ⟨_, h, out, outcome, failures, wake, offset, now, course, rfl⟩ := hop
  refine ⟨h, out, outcome, failures, wake, offset, now, course, rfl, ?_⟩
  intro consumer choice s due htime (hoffset : (s.broker.records out.topic).length = offset) hok
  subst htime hoffset
  refine ⟨_, (Delivery.Move.published due (Prod.ext hok rfl)).step?, ?_⟩
  show (s.broker.publish out s.clock.wall).2.records out.topic = _
  rw [Broker.records_publish hok, if_pos rfl]
  rfl

end Listener

/-- **What a delivery adds to the logs is the copy of a hop.**  Any other step leaves them as they
are. -/
theorem Delivery.Course.stores {l : Listener} {h : Handler} {r : Record} {ms : List Mishap}
    {d d' : Delivery} {consumer : Option Nat} {choice : Choice} {s s' : Stage}
    (course : Course l h r ms d) (htopic : r.topic = l.node.name)
    (taken : d.step? consumer l h r choice s = some (s', d')) :
    (∀ topic, s'.broker.records topic = s.broker.records topic)
      ∨ ∃ r', l.Hop ms r r' ∧ ∀ topic, s'.broker.records topic
          = s.broker.records topic ++ if r'.topic = topic then [r'] else [] := by
  have unchanged : s'.broker.topics = s.broker.topics → ∀ topic,
      s'.broker.records topic = s.broker.records topic := by
    intro hsame topic
    unfold Broker.records Broker.log?
    rw [hsame]
  cases Move.of_step taken with
  | called attempt => cases h <;> exact Or.inl (unchanged rfl)
  | @published out outcome failures wake broker due answer =>
      have hok : (s.broker.publish out s.clock.wall).1 = .ok () := by rw [answer]
      have hop : l.Hop ms r (Broker.stored out (s.broker.records out.topic).length s.clock.wall) :=
        ⟨htopic, h, out, outcome, failures, wake, _, _, course, rfl⟩
      refine Or.inr ⟨_, hop, fun topic => ?_⟩
      have hrecords := Broker.records_publish hok topic
      rw [answer] at hrecords
      exact hrecords
  | refused due answer left =>
      have hsame := Broker.topics_publish_of_error (congrArg Prod.fst answer)
      rw [answer] at hsame
      exact Or.inl (unchanged hsame)
  | gaveUp due answer left =>
      have hsame := Broker.topics_publish_of_error (congrArg Prod.fst answer)
      rw [answer] at hsame
      exact Or.inl (unchanged hsame)
  | _ => exact Or.inl (unchanged rfl)

end Redelivery
