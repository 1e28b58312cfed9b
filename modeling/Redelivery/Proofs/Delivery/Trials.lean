/-
  Redelivery.Proofs.Delivery.Trials
  ─────────────────────────────────
  **How often a handler is called for one record.**

  At a plain node a failure is repeated in place while attempts are left, if
  the policy permits it; at any other node every failure is the last one.

      call 1, rest, call 2, rest, …, call n      n ≤ limit

  All calls but the last failed and were repeated, each after one rest; the
  last one was not (`Account`).  The numbers of the calls never leave 32 bits,
  and every step brings the end nearer.
-/
import Mathlib.Data.List.Chain
import Redelivery.Proofs.Delivery.Hops
import Redelivery.Proofs.Delivery.Sessions
import Redelivery.Proofs.System.Handover

namespace Redelivery

/-! ## §1. Failures that are repeated in place. -/

/-- The failure is neither fatal nor found past the timeout, and its kind is retried in place. -/
structure Policy.Permits (policy : Policy) (r : Record) (f : Failure) (now : Int64) : Prop where
  notFatal : policy.classifier.isFatal f = false
  inTime : timedOut policy.timeout (r.headers.getInt64? Headers.firstFailureTime) now = false
  blocks : policy.blocksOn f = true

section Verdicts

variable {chain : Chain} {main terminal node next : Destination} {retries : List Destination}
  {p : Nat} {attempt : UInt32} {f : Failure} {r : Record} {now : Int64}

/-- The node that is next is the same one if attempts are left and the policy permits it. -/
theorem Chain.next?_of_permits (permits : chain.policy.Permits r f now)
    (left : attempt < node.maxAttempts) :
    chain.next? p node attempt f (r.headers.getInt64? Headers.firstFailureTime) now = some node := by
  unfold Chain.next?
  rw [permits.notFatal, permits.inTime, if_neg Bool.false_ne_true, if_neg Bool.false_ne_true,
    if_pos ⟨left, Or.inr permits.blocks⟩]

/-- Otherwise it is a later one. -/
theorem Chain.Regular.next?_of_not_permits (h : chain.Regular main retries terminal)
    (hnode : chain.destinations[p]? = some node) (hrole : node.role.isTerminal = false)
    (hplain : node.reusable = false)
    (hnot : ¬(chain.policy.Permits r f now ∧ attempt < node.maxAttempts))
    (hnext : chain.next? p node attempt f (r.headers.getInt64? Headers.firstFailureTime) now
      = some next) : next.name ≠ node.name := by
  have hlt := h.lt_of_not_terminal hnode hrole
  have hlast : chain.destinations[chain.destinations.length - 1]? = some terminal := by
    rw [← List.getLast?_eq_getElem?]
    exact h.getLast?
  have hterminal : terminal.name ≠ node.name := h.name_ne hnode hlast (by omega)
  unfold Chain.next? at hnext
  rw [h.terminal?_eq] at hnext
  split at hnext
  · cases hnext
    exact hterminal
  · rename_i hfatal
    split at hnext
    · cases hnext
      exact hterminal
    · rename_i hlate
      split at hnext
      · rename_i hstays
        rcases hstays with ⟨hleft, hreusable | hblocks⟩
        · rw [hplain] at hreusable
          cases hreusable
        · exact absurd ⟨⟨Bool.not_eq_true _ ▸ hfatal, Bool.not_eq_true _ ▸ hlate, hblocks⟩, hleft⟩
            hnot
      · exact h.name_ne hnode hnext (Nat.succ_ne_self p).symm

/-- **The handler is called again in place** at a plain node, while attempts are left and if the policy
permits it; and only there. -/
theorem Listener.Serves.verdict_again_iff {l : Listener} {registry : Registry}
    (serves : l.Serves registry chain p) :
    (l.verdict registry now r attempt f).1 = .again
      ↔ l.node.isPlain = true ∧ chain.policy.Permits r f now ∧ attempt < l.node.maxAttempts := by
  obtain ⟨main, retries, terminal, hregular⟩ := serves.regular
  -- where a plain node leads
  have hresolve := fun hrole : l.node.role.isTerminal = false =>
    Registry.resolve_of_place serves.inForce
      (Chain.position?_name hregular.nodup_names serves.place) serves.place hrole attempt f
      (r.headers.getInt64? Headers.firstFailureTime) now
  constructor
  · intro hagain
    rcases Destination.plain_or_noOps (Listener.of_verdict_again hagain) with hplain | hnoOps
    · by_contra hnot
      obtain ⟨hrole, hreusable⟩ := Destination.isPlain_iff.1 hplain
      obtain ⟨_, next, hnext, _⟩ := hregular.onward serves.place hrole attempt f
        (r.headers.getInt64? Headers.firstFailureTime) now
      have hname := hregular.next?_of_not_permits serves.place hrole hreusable
        (fun h => hnot ⟨hplain, h⟩) hnext
      have hrouted := hresolve hrole
      rw [hnext] at hrouted
      have hleaves : l.staysInPlace next = false := by
        rw [Listener.staysInPlace, beq_eq_false_iff_ne.2 hname]
        rfl
      cases htopic : next.isNoOps with
      | true =>
          rw [Listener.verdict_of_noOps hrouted hleaves htopic] at hagain
          cases hagain
      | false =>
          rw [Listener.verdict_of_topic hrouted hleaves htopic] at hagain
          cases hagain
    · have hrouting : ∀ topic reason,
          Error.routing (.failedOnNoOps l.node.source) ≠ .fatal topic reason := by
        intro topic reason heq
        cases heq
      rw [Listener.verdict_of_error (serves.of_noOps hnoOps) hrouting] at hagain
      cases hagain
  · rintro ⟨hplain, permits, left⟩
    have hrouted := hresolve (Destination.isPlain_iff.1 hplain).1
    rw [Chain.next?_of_permits permits left] at hrouted
    refine Listener.verdict_of_again hrouted ?_
    rw [Listener.staysInPlace, beq_self_eq_true, Destination.not_countsDeliveries_of_plain hplain]
    rfl

end Verdicts

/-! ## §2. The account of all calls. -/

/-- A number that is less than another one of 32 bits has a successor there. -/
theorem toNat_add_one_of_lt {a b : UInt32} (h : a < b) : (a + 1).toNat = a.toNat + 1 := by
  rw [UInt32.lt_iff_toNat_lt] at h
  have hb := b.toNat_lt
  rw [UInt32.toNat_add, UInt32.toNat_one]
  omega

/-- How often the handler may be called for one record: once where attempts are not counted in place. -/
def Listener.limit (l : Listener) : Nat :=
  if l.node.isPlain then l.node.maxAttempts.toNat else 1

section Counting

variable {l : Listener}

theorem Listener.limit_of_plain (plain : l.node.isPlain = true) :
    l.limit = l.node.maxAttempts.toNat :=
  if_pos plain

theorem Listener.limit_of_not_plain (shared : l.node.isPlain = false) : l.limit = 1 := by
  rw [limit, shared]
  rfl

theorem Listener.firstAttempt_of_plain (plain : l.node.isPlain = true) (r : Record) :
    l.firstAttempt r = 1 := by
  rw [firstAttempt, Destination.not_countsDeliveries_of_plain plain]
  rfl

theorem Listener.firstAttempt_of_counts (counts : l.node.countsDeliveries = true) (r : Record) :
    l.firstAttempt r = r.headers.attempt :=
  if_pos counts

end Counting

namespace Trial

/-- The trial failed, and the handler is to be called again in place. -/
def Repeats (x : Trial) (l : Listener) (policy : Policy) (r : Record) : Prop :=
  ∃ f, x.result = .failed f ∧ l.node.isPlain = true ∧ policy.Permits r f x.clock.wall
    ∧ x.attempt < l.node.maxAttempts

/-- Why a trial at a plain node is the last one. -/
inductive Decides (x : Trial) (l : Listener) (policy : Policy) (r : Record) : Prop where
  | succeeded (result : x.result = .succeeded) : Decides x l policy r
  | brokeDown (result : x.result = .brokeDown) : Decides x l policy r
  | fatal {f : Failure} (result : x.result = .failed f)
      (fatal : policy.classifier.isFatal f = true) : Decides x l policy r
  | late {f : Failure} (result : x.result = .failed f)
      (late : timedOut policy.timeout (r.headers.getInt64? Headers.firstFailureTime) x.clock.wall
        = true) : Decides x l policy r
  | notRetried {f : Failure} (result : x.result = .failed f) (kind : policy.blocksOn f = false) :
      Decides x l policy r
  | usedUp {f : Failure} (result : x.result = .failed f) (last : x.attempt = l.node.maxAttempts) :
      Decides x l policy r

theorem Decides.of_not_repeats {x : Trial} {l : Listener} {policy : Policy} {r : Record}
    (plain : l.node.isPlain = true) (most : x.attempt.toNat ≤ l.node.maxAttempts.toNat)
    (hnot : ¬x.Repeats l policy r) : x.Decides l policy r := by
  cases hresult : x.result with
  | succeeded => exact .succeeded hresult
  | brokeDown => exact .brokeDown hresult
  | failed f =>
      by_cases hlast : x.attempt = l.node.maxAttempts
      · exact .usedUp hresult hlast
      · have hleft : x.attempt < l.node.maxAttempts := by
          rw [UInt32.lt_iff_toNat_lt]
          have hne : x.attempt.toNat ≠ l.node.maxAttempts.toNat := fun h =>
            hlast (UInt32.toNat_inj.1 h)
          omega
        cases hfatal : policy.classifier.isFatal f with
        | true => exact .fatal hresult hfatal
        | false =>
            cases hlate : timedOut policy.timeout (r.headers.getInt64? Headers.firstFailureTime)
                x.clock.wall with
            | true => exact .late hresult hlate
            | false =>
                cases hblocks : policy.blocksOn f with
                | true => exact absurd ⟨f, hresult, plain, ⟨hfatal, hlate, hblocks⟩, hleft⟩ hnot
                | false => exact .notRetried hresult hblocks

end Trial

/-- A failure with another verdict is not repeated. -/
theorem Listener.Serves.not_repeats {l : Listener} {registry : Registry} {chain : Chain} {p : Nat}
    {r : Record} {attempt : UInt32} {f : Failure} {clock : Clock} {called : Nat}
    (serves : l.Serves registry chain p)
    (verdict : (l.verdict registry clock.wall r attempt f).1 ≠ .again) :
    ¬Trial.Repeats ⟨attempt, called, .failed f, clock⟩ l chain.policy r := by
  rintro ⟨f', hresult, hrepeats⟩
  cases hresult
  exact verdict (serves.verdict_again_iff.2 hrepeats)

namespace Delivery

/-- Where a delivery stands after these trials, the latest step having been taken at `since`. -/
def Stands (pace : Pace) (l : Listener) (policy : Policy) (r : Record) (trials : List Trial)
    (since : Nat) : Delivery → Prop
  | .calling attempt | .handling attempt _ _ =>
      attempt.toNat = (l.firstAttempt r).toNat + trials.length
        ∧ ∀ x ∈ trials.getLast?, x.Repeats l policy r
          ∧ pace.Allows (x.clock.elapsed + l.blockingInterval.toNat) since
  | .resting attempt wake =>
      attempt.toNat = (l.firstAttempt r).toNat + trials.length
        ∧ ∃ x, trials.getLast? = some x ∧ x.Repeats l policy r ∧ since = x.clock.elapsed
          ∧ wake = x.clock.elapsed + l.blockingInterval.toNat
  | _ => ∃ x, trials.getLast? = some x ∧ ¬x.Repeats l policy r

/-- **The account of all calls.**  The trials are numbered from the first attempt on and are not more
than allowed; each but the last was repeated, and called again after a rest. -/
structure Account (pace : Pace) (l : Listener) (policy : Policy) (r : Record) (trials : List Trial)
    (since : Nat) (d : Delivery) : Prop where
  numbers : trials.map (fun x => x.attempt.toNat)
    = List.range' (l.firstAttempt r).toNat trials.length
  repeats : trials.IsChain fun x y => x.Repeats l policy r
    ∧ pace.Allows (x.clock.elapsed + l.blockingInterval.toNat) y.called
  most : trials.length ≤ l.limit
  stands : Stands pace l policy r trials since d

variable {pace : Pace} {l : Listener} {h : Handler} {policy : Policy} {r : Record}
  {trials : List Trial} {since : Nat} {d d' : Delivery} {x : Trial} {s s' t : Stage}
  {consumer : Option Nat} {choice : Choice} {registry : Registry} {chain : Chain} {p : Nat}
  {attempt : UInt32} {result : HandlerResult} {wake : Nat}

/-- The number of the last trial. -/
theorem Account.number_last (account : Account pace l policy r trials since d)
    (hlast : trials.getLast? = some x) :
    x.attempt.toNat + 1 = (l.firstAttempt r).toNat + trials.length := by
  obtain ⟨init, rfl⟩ := List.getLast?_eq_some_iff.1 hlast
  have hnumbers := account.numbers
  rw [List.length_append, List.length_singleton, List.map_append, List.range'_concat] at hnumbers
  have hnumber : x.attempt.toNat = (l.firstAttempt r).toNat + 1 * init.length :=
    List.singleton_inj.1 (List.append_inj_right' hnumbers rfl)
  rw [List.length_append, List.length_singleton, hnumber]
  omega

theorem Account.next_le (account : Account pace l policy r trials since d)
    (positive : 1 ≤ l.limit) (repeats : ∀ x ∈ trials.getLast?, x.Repeats l policy r) :
    trials.length + 1 ≤ l.limit := by
  cases hlast : trials.getLast? with
  | none =>
      rw [List.getLast?_eq_none_iff.1 hlast]
      exact positive
  | some x =>
      obtain ⟨_, _, plain, _, left⟩ := repeats x hlast
      have hnumber := account.number_last hlast
      rw [UInt32.lt_iff_toNat_lt] at left
      rw [Listener.firstAttempt_of_plain plain, UInt32.toNat_one] at hnumber
      rw [Listener.limit_of_plain plain]
      omega

/-- One more trial. -/
theorem Account.concat (account : Account pace l policy r trials since (.handling attempt result wake))
    (positive : 1 ≤ l.limit) (clock : Clock) (d' : Delivery)
    (stands : Stands pace l policy r (trials ++ [⟨attempt, since, result, clock⟩]) clock.elapsed d') :
    Account pace l policy r (trials ++ [⟨attempt, since, result, clock⟩]) clock.elapsed d' where
  numbers := by
    rw [List.length_append, List.length_singleton, List.map_append, List.range'_concat,
      account.numbers, Nat.one_mul, ← account.stands.1]
    rfl
  repeats := by
    refine List.isChain_append.2 ⟨account.repeats, .singleton _, fun x hx y hy => ?_⟩
    cases hy
    exact account.stands.2 x hx
  most := by
    rw [List.length_append]
    exact account.next_le positive fun x hx => (account.stands.2 x hx).1
  stands := stands

/-- No more trials. -/
theorem Account.goOn (account : Account pace l policy r trials since d) {since' : Nat}
    (stands : Stands pace l policy r trials since' d') :
    Account pace l policy r (trials ++ []) since' d' := by
  rw [List.append_nil]
  exact ⟨account.numbers, account.repeats, account.most, stands⟩

/-- **One step keeps the account.** -/
theorem Account.move (account : Account pace l chain.policy r trials since d)
    (serves : l.Serves t.registry chain p) (positive : 1 ≤ l.limit)
    (time : pace.Allows (d.dueTime since) t.clock.elapsed)
    (move : Move consumer l h r choice t d s' d') :
    Account pace l chain.policy r (trials ++ d.trials since t) t.clock.elapsed d' := by
  cases move with
  | called attempt =>
      have hcalling : ∀ x ∈ trials.getLast?, x.Repeats l chain.policy r
          ∧ pace.Allows (x.clock.elapsed + l.blockingInterval.toNat) t.clock.elapsed := by
        intro x hx
        obtain ⟨hrepeats, hrested⟩ := account.stands.2 x hx
        -- a call waits for nothing but its rest, which is over
        exact ⟨hrepeats, hrested.trans ((Nat.max_zero since).symm ▸ time)⟩
      cases h with
      | named name => exact account.goOn ⟨account.stands.1, hcalling⟩
      | logging level => exact account.goOn ⟨account.stands.1, hcalling⟩
  | succeeded due =>
      refine account.concat positive _ _ ⟨_, List.getLast?_concat, ?_⟩
      rintro ⟨f, hresult, _⟩
      cases hresult
  | brokeDown due =>
      refine account.concat positive _ _ ⟨_, List.getLast?_concat, ?_⟩
      rintro ⟨f, hresult, _⟩
      cases hresult
  | @again attempt f wake due verdict =>
      obtain ⟨plain, permits, left⟩ := serves.verdict_again_iff.1 verdict
      refine account.concat positive _ _ ⟨?_, _, List.getLast?_concat,
        ⟨f, rfl, plain, permits, left⟩, rfl, rfl⟩
      rw [List.length_append, List.length_singleton, ← Nat.add_assoc, ← account.stands.1]
      exact toNat_add_one_of_lt left
  | finished due verdict =>
      refine account.concat positive _ _ ⟨_, List.getLast?_concat, serves.not_repeats ?_⟩
      rw [verdict]
      exact nofun
  | republishing due verdict =>
      refine account.concat positive _ _ ⟨_, List.getLast?_concat, serves.not_repeats ?_⟩
      rw [verdict]
      exact nofun
  | @rested attempt wake due =>
      obtain ⟨hnumber, x, hlast, hrepeats, hsince, hwake⟩ := account.stands
      refine account.goOn ⟨hnumber, fun y hy => ?_⟩
      rw [hlast] at hy
      cases hy
      refine ⟨hrepeats, ?_⟩
      have hdue : max since wake = x.clock.elapsed + l.blockingInterval.toNat := by omega
      rw [← hdue]
      exact time
  | published due answer => exact account.goOn account.stands
  | refused due answer left => exact account.goOn account.stands
  | gaveUp due answer left => exact account.goOn account.stands

/-- **The account of a session.** -/
theorem Session.account {s₀ : Stage} {offers : List Offer} (serves : l.Serves s₀.registry chain p)
    (positive : 1 ≤ l.limit) (session : Session (Around l pace) l h r s₀ trials offers s d) :
    Account pace l chain.policy r trials s.clock.elapsed d := by
  induction session with
  | start =>
      refine ⟨rfl, .nil, Nat.zero_le _, rfl, ?_⟩
      intro x hx
      cases hx
  | step consumer choice before between taken ih =>
      have hmove := Move.of_step taken
      rw [hmove.stage.2]
      exact ih.move (serves.of_chain (between.chain.trans before.chain)) positive between.time hmove

/-! ## §3. What the account says. -/

/-- Whether the delivery is over. -/
def isOver : Delivery → Bool
  | .ended _ | .brokeDown => true
  | _ => false

/-- How often the handler has been called, after these trials. -/
def timesCalled (trials : List Trial) : Delivery → Nat
  | .handling _ _ _ => trials.length + 1
  | _ => trials.length

/-- **The handler is not called more often than allowed.** -/
theorem Account.timesCalled_le (account : Account pace l policy r trials since d)
    (positive : 1 ≤ l.limit) : d.timesCalled trials ≤ l.limit := by
  cases d with
  | handling attempt result wake =>
      exact account.next_le positive fun x hx => (account.stands.2 x hx).1
  | _ => exact account.most

/-- A delivery that is over has a last trial, which was not repeated. -/
theorem Account.of_isOver (account : Account pace l policy r trials since d)
    (finished : d.isOver = true) : ∃ x, trials.getLast? = some x ∧ ¬x.Repeats l policy r := by
  cases d with
  | ended result => exact account.stands
  | brokeDown => exact account.stands
  | _ => cases finished

/-- **At a plain node the last trial decides.** -/
theorem Account.decides (account : Account pace l policy r trials since d)
    (plain : l.node.isPlain = true) (finished : d.isOver = true) :
    ∃ x, trials.getLast? = some x ∧ x.Decides l policy r := by
  obtain ⟨x, hlast, hnot⟩ := account.of_isOver finished
  refine ⟨x, hlast, .of_not_repeats plain ?_ hnot⟩
  have hnumber := account.number_last hlast
  have hmost := account.most
  rw [Listener.limit_of_plain plain] at hmost
  rw [Listener.firstAttempt_of_plain plain, UInt32.toNat_one] at hnumber
  omega

/-- **Where attempts are not counted in place there is one trial**, with the number of the first
attempt. -/
theorem Account.single (account : Account pace l policy r trials since d)
    (shared : l.node.isPlain = false) (finished : d.isOver = true) :
    ∃ x, trials = [x] ∧ x.attempt = l.firstAttempt r := by
  obtain ⟨x, hlast, _⟩ := account.of_isOver finished
  obtain ⟨init, rfl⟩ := List.getLast?_eq_some_iff.1 hlast
  have hmost := account.most
  have hnumber := account.number_last hlast
  rw [Listener.limit_of_not_plain shared, List.length_append, List.length_singleton] at hmost
  rw [List.length_append, List.length_singleton] at hnumber
  have hinit : init = [] := List.length_eq_zero_iff.1 (by omega)
  subst hinit
  exact ⟨x, rfl, UInt32.toNat_inj.1 (by simpa using hnumber)⟩

/-- **The next number fits into 32 bits** wherever the record stays on its topic. -/
theorem Account.next_fits {f : Failure} {now : Int64} {next : Destination}
    (account : Account pace l chain.policy r trials since (.handling attempt (.failed f) wake))
    (serves : l.Serves registry chain p) (routed : l.routed registry now r attempt f = .ok next)
    (stays : next.name = l.node.name) : (attempt + 1).toNat = attempt.toNat + 1 := by
  cases hcounts : l.node.countsDeliveries with
  | false =>
      have hagain : (l.verdict registry now r attempt f).1 = .again := by
        refine Listener.verdict_of_again routed ?_
        rw [Listener.staysInPlace, hcounts, stays, beq_self_eq_true]
        rfl
      exact toNat_add_one_of_lt (serves.verdict_again_iff.1 hagain).2.2
  | true =>
      -- this is the first trial, and the number in the header has 31 bits
      have hnone : trials = [] := by
        rw [← List.getLast?_eq_none_iff, Option.eq_none_iff_forall_not_mem]
        intro x hx
        obtain ⟨_, _, plain, _⟩ := (account.stands.2 x hx).1
        rw [Destination.not_countsDeliveries_of_plain plain] at hcounts
        cases hcounts
      have hnumber := account.stands.1
      rw [hnone, Listener.firstAttempt_of_counts hcounts] at hnumber
      have hbounds := r.headers.attempt_bounds
      refine toNat_add_one_of_lt (b := 4294967295) (UInt32.lt_iff_toNat_lt.2 ?_)
      show attempt.toNat < 4294967295
      rw [hnumber]
      show _ + 0 < _
      omega

/-! ## §4. Every step brings the end nearer. -/

/-- A bound on the steps that are left: three for each attempt, one for each publish. -/
def stepsLeft (l : Listener) : Delivery → Nat
  | .calling attempt =>
      3 * (l.node.maxAttempts.toNat - attempt.toNat) + l.republish.maxTimes.toNat + 3
  | .handling attempt _ _ =>
      3 * (l.node.maxAttempts.toNat - attempt.toNat) + l.republish.maxTimes.toNat + 2
  | .resting attempt _ =>
      3 * (l.node.maxAttempts.toNat - attempt.toNat) + l.republish.maxTimes.toNat + 4
  | .publishing _ _ failures _ => l.republish.maxTimes.toNat - failures + 1
  | .ended _ | .brokeDown => 0

theorem Move.stepsLeft_lt (move : Move consumer l h r choice t d s' d')
    (serves : l.Serves t.registry chain p) : d'.stepsLeft l < d.stepsLeft l := by
  cases move with
  | called attempt => cases h <;> exact Nat.lt_succ_self _
  | succeeded due => exact Nat.succ_pos _
  | brokeDown due => exact Nat.succ_pos _
  | @again attempt f wake due verdict =>
      have hleft := (serves.verdict_again_iff.1 verdict).2.2
      show 3 * (_ - (attempt + 1).toNat) + _ + 4 < 3 * (_ - attempt.toNat) + _ + 2
      rw [toNat_add_one_of_lt hleft]
      rw [UInt32.lt_iff_toNat_lt] at hleft
      omega
  | finished due verdict => exact Nat.succ_pos _
  | republishing due verdict =>
      show _ - 0 + 1 < _ + _ + 2
      omega
  | rested due => exact Nat.lt_succ_self _
  | published due answer => exact Nat.succ_pos _
  | @refused out outcome failures wake pause broker e due answer left =>
      have hlt := RepublishPolicy.lt_of_pause left
      show _ - (failures + 1) + 1 < _ - failures + 1
      omega
  | gaveUp due answer left => exact Nat.succ_pos _

/-- A delivery that is awake and not over can take its next step. -/
theorem exists_step_of_awake (awake : d.wake?.getD 0 ≤ t.clock.elapsed) (open₀ : d.isOver = false)
    (consumer : Option Nat) (h : Handler) (choice : Choice) :
    ∃ next, d.step? consumer l h r choice t = some next := by
  refine exists_step consumer l h r choice (fun wake hwake => ?_)
    (by rintro result rfl; cases open₀) (by rintro rfl; cases open₀)
  rwa [hwake, Option.getD_some] at awake

/-- **A delivery that is not over can take its next step**, and is nearer to its end then. -/
theorem exists_step_of_not_over (serves : l.Serves s.registry chain p) (around : Around l pace d s t)
    (open₀ : d.isOver = false) (consumer : Option Nat) (h : Handler) (choice : Choice) :
    ∃ s' d', d.step? consumer l h r choice t = some (s', d') ∧ d'.stepsLeft l < d.stepsLeft l := by
  have hawake : d.wake?.getD 0 ≤ t.clock.elapsed :=
    Nat.le_trans (Nat.le_max_right _ _) around.time.le
  obtain ⟨⟨s', d'⟩, htaken⟩ := exists_step_of_awake hawake open₀ consumer h choice
  exact ⟨s', d', htaken, (Move.of_step htaken).stepsLeft_lt (serves.of_chain around.chain)⟩

theorem wake?_of_isOver (finished : d.isOver = true) : d.wake? = none := by
  cases d with
  | ended result => rfl
  | brokeDown => rfl
  | _ => cases finished

theorem isOver_of_stepsLeft (h : d.stepsLeft l = 0) : d.isOver = true := by
  cases d with
  | ended result => rfl
  | brokeDown => rfl
  | _ => cases h

end Delivery

/-- **A delivery that is simulated by itself comes to its end**, if it may take two actions for each
step that is left: one to wait, and the step. -/
theorem Simulation.isOver_of_deliverWithin {l : Listener} {h : Handler} {r : Record} {chain : Chain}
    {p : Nat} (steps : Nat) : ∀ {s : Simulation} {d : Delivery}, l.Serves s.registry chain p →
    2 * d.stepsLeft l ≤ steps
      ∨ d.wake?.getD 0 ≤ s.clock.elapsed ∧ 2 * d.stepsLeft l ≤ steps + 1 →
    (s.deliverWithin l h r d steps).2.isOver = true := by
  -- a delivery that is awake needs not wait before its next step
  induction steps with
  | zero =>
      intro s d _ enough
      have hnone : d.stepsLeft l = 0 := by omega
      exact Delivery.isOver_of_stepsLeft hnone
  | succ steps ih =>
      intro s d serves enough
      unfold deliverWithin
      simp only
      split
      · rename_i stage next taken
        have hmove := Delivery.Move.of_step taken
        have hless := hmove.stepsLeft_lt serves
        refine ih (?_ : l.Serves _ chain p) (Or.inl (by omega))
        have hregistry : stage.registry = s.registry := hmove.stage.1
        rw [← hregistry] at serves
        split
        · rw [toSystem_calledWith]
          exact serves
        · exact serves
      · rename_i hstuck
        -- awake, it would have taken its step, or it is over
        have hover : d.wake?.getD 0 ≤ s.clock.elapsed → d.isOver = true := by
          intro hawake
          by_contra hopen
          obtain ⟨next, hstep⟩ := Delivery.exists_step_of_awake hawake (Bool.not_eq_true _ ▸ hopen)
            none h { reply := s.reply h r }
          rw [hstep] at hstuck
          cases hstuck
        split
        · rename_i wake hwake
          refine ih serves (Or.inr ⟨?_, ?_⟩)
          · rw [hwake]
            exact Nat.le_max_right _ _
          · rcases enough with henough | ⟨hawake, _⟩
            · exact henough
            · rw [Delivery.wake?_of_isOver (hover hawake)] at hwake
              cases hwake
        · rename_i hwake
          exact hover (by rw [hwake]; exact Nat.zero_le _)

/-! ## §5. What reaches the broker. -/

/-- The broker took the copy. -/
def Offer.accepted (o : Offer) : Bool := o.answer.isOk

theorem Offer.countP_refusals (copy : OutgoingRecord) (errors : List BusError) :
    (refusals copy errors).countP accepted = 0 := by
  rw [List.countP_eq_zero]
  intro o ho
  obtain ⟨e, _, rfl⟩ := List.mem_map.1 ho
  exact Bool.false_ne_true

namespace Delivery

variable {l : Listener} {h : Handler} {r : Record} {trials : List Trial} {offers : List Offer}
  {d d' : Delivery} {s' t : Stage} {consumer : Option Nat} {choice : Choice} {registry : Registry}

/-- **A step does to the broker what its offers do**, and nothing else. -/
theorem Move.broker_offers (move : Move consumer l h r choice t d s' d') :
    s'.broker = (d.offers t).foldl (fun b o => (b.publish o.copy t.clock.wall).2) t.broker := by
  cases move with
  | called attempt => cases h <;> rfl
  | @published out outcome failures wake broker due answer =>
      show broker = (t.broker.publish out t.clock.wall).2
      rw [answer]
  | @refused out outcome failures wake pause broker e due answer left =>
      show broker = (t.broker.publish out t.clock.wall).2
      rw [answer]
  | @gaveUp out outcome failures wake broker e due answer left =>
      show broker = (t.broker.publish out t.clock.wall).2
      rw [answer]
  | _ => rfl

theorem Conclusion.accepted_le_one {x : Trial} {result : Except Error Outcome}
    (conclusion : Conclusion l registry r x offers result) :
    offers.countP Offer.accepted ≤ 1 := by
  cases conclusion with
  | processed succeeded => exact Nat.zero_le 1
  | stranded failed routed => exact Nat.zero_le 1
  | misplaced failed routed role => exact Nat.zero_le 1
  | dropped failed routed role => exact Nat.zero_le 1
  | forwarded errors failed routed role =>
      rw [List.countP_append, Offer.countP_refusals]
      exact Nat.le_refl 1
  | deadLettered errors failed routed role =>
      rw [List.countP_append, Offer.countP_refusals]
      exact Nat.le_refl 1
  | refused errors e failed routed role =>
      rw [Offer.countP_refusals]
      exact Nat.zero_le 1

/-- **At most one copy is accepted.** -/
theorem Tells.accepted_le_one (tells : Tells l registry r trials offers d) :
    offers.countP Offer.accepted ≤ 1 := by
  have hnone : offers = [] → offers.countP Offer.accepted ≤ 1 := by
    rintro rfl
    exact Nat.zero_le 1
  cases d with
  | calling attempt => exact hnone tells
  | handling attempt result wake => exact hnone tells
  | resting attempt wake => exact hnone tells
  | publishing out outcome failures wake =>
      obtain ⟨x, f, next, errors, _, _, _, _, _, _, rfl, _⟩ := tells
      rw [Offer.countP_refusals]
      exact Nat.zero_le 1
  | ended result =>
      obtain ⟨x, _, conclusion⟩ := tells
      exact conclusion.accepted_le_one
  | brokeDown => exact hnone tells.1

/-! ## §6. From the first call to the end. -/

/-- **What is true of a session**, with the trials and offers so far, of a listener whose node has these
rules. -/
structure EndToEnd (pace : Pace) (l : Listener) (policy : Policy) (registry : Registry) (r : Record)
    (trials : List Trial) (offers : List Offer) (s : Stage) (d : Delivery) : Prop where
  /-- At a plain node the trials are numbered from 1, and the handler is not called more often than the
  node allows.  Each trial but the last failed, was repeated, and called again after one rest; the
  last one decides. -/
  plain : l.node.isPlain = true →
    trials.map (fun x => x.attempt.toNat) = List.range' 1 trials.length
      ∧ d.timesCalled trials ≤ l.node.maxAttempts.toNat
      ∧ trials.IsChain (fun x y => x.Repeats l policy r
          ∧ pace.Allows (x.clock.elapsed + l.blockingInterval.toNat) y.called)
      ∧ (d.isOver = true → ∃ x, trials.getLast? = some x ∧ x.Decides l policy r)
  /-- At any other node the handler is called once, and its attempt has the number in the header if
  attempts are counted across deliveries. -/
  once : l.node.isPlain = false →
    d.timesCalled trials ≤ 1 ∧ (d.isOver = true → ∃ x, trials = [x] ∧ x.attempt = l.firstAttempt r)
  /-- The last trial says how the session ends, and which copies are offered. -/
  ended : ∀ result, d = .ended result →
    ∃ x, trials.getLast? = some x ∧ Conclusion l registry r x offers result
  brokeDown : d = .brokeDown → offers = []
  atMostOne : offers.countP Offer.accepted ≤ 1
  /-- Wherever the number of an attempt is raised, the next number fits into 32 bits. -/
  fits : ∀ attempt f wake now next, d = .handling attempt (.failed f) wake →
    l.routed registry now r attempt f = .ok next → next.name = l.node.name →
    (attempt + 1).toNat = attempt.toNat + 1
  /-- As long as the session is not over it can go on, and every step brings its end nearer. -/
  goesOn : d.isOver = false → ∀ t, Around l pace d s t → ∀ consumer h choice,
    ∃ s' d', d.step? consumer l h r choice t = some (s', d') ∧ d'.stepsLeft l < d.stepsLeft l

theorem Session.endToEnd {pace : Pace} {s₀ s : Stage} {chain : Chain} {p : Nat}
    (serves : l.Serves registry chain p) (positive : 1 ≤ l.limit)
    (inForce : s₀.registry.chain? l.node.source = some chain)
    (session : Session (Around l pace) l h r s₀ trials offers s d) :
    EndToEnd pace l chain.policy registry r trials offers s d where
  plain plain := by
    have account := session.account (serves.of_chain (inForce.trans serves.inForce.symm)) positive
    have hnumbers := account.numbers
    have hcalled := account.timesCalled_le positive
    rw [Listener.firstAttempt_of_plain plain, UInt32.toNat_one] at hnumbers
    rw [Listener.limit_of_plain plain] at hcalled
    exact ⟨hnumbers, hcalled, account.repeats, account.decides plain⟩
  once shared := by
    have account := session.account (serves.of_chain (inForce.trans serves.inForce.symm)) positive
    have hcalled := account.timesCalled_le positive
    rw [Listener.limit_of_not_plain shared] at hcalled
    exact ⟨hcalled, account.single shared⟩
  ended result hended := by
    subst hended
    exact session.tells serves (inForce.trans serves.inForce.symm)
  brokeDown hbroke := by
    subst hbroke
    exact (session.tells serves (inForce.trans serves.inForce.symm)).1
  atMostOne := (session.tells serves (inForce.trans serves.inForce.symm)).accepted_le_one
  fits attempt f wake now next hhandling routed stays := by
    subst hhandling
    exact (session.account (serves.of_chain (inForce.trans serves.inForce.symm)) positive).next_fits
      serves routed stays
  goesOn open₀ t around consumer h choice := by
    have hsame := session.chain.trans (inForce.trans serves.inForce.symm)
    exact exists_step_of_not_over (serves.of_chain hsame) around open₀ consumer h choice

end Delivery

/-- Listeners of the chains in force after some planning. -/
theorem Planning.serves {calls : List Planning.Call} {chain : Chain} {l : Listener}
    (inForce : (run calls).registry.chain? l.node.source = some chain)
    (member : l.node ∈ chain.destinations) :
    ∃ p, l.Serves (run calls).registry chain p ∧ 1 ≤ l.limit := by
  obtain ⟨p, hplace⟩ := List.getElem?_of_mem member
  refine ⟨p, ⟨inForce, regular_of_chain? inForce, hplace⟩, ?_⟩
  cases hplain : l.node.isPlain with
  | true =>
      obtain ⟨_, _, levels, naming, _, hbuilt⟩ := (sound_run calls).of_chain? inForce
      rw [Listener.limit_of_plain hplain]
      exact one_le_maxAttempts_of_buildNodes hbuilt member
  | false => exact Nat.le_of_eq (Listener.limit_of_not_plain hplain).symm

open Delivery in
/-- **One record from the first call of the handler to the end**, with a chain of any planning in
force and unchanged.  Whatever the headers of the record, the replies of the handler, the answers of
the broker, the chains of other source topics and whatever else happens, a session is as `EndToEnd`
says, and all that it does to the broker is to offer its copies.  A delivery that is simulated by
itself is a session whose steps are prompt, and it comes to its end. -/
theorem one_delivery_end_to_end (calls : List Planning.Call) {registry : Registry}
    (planned : registry = (Planning.run calls).registry) {chain : Chain} {l : Listener}
    (inForce : registry.chain? l.node.source = some chain)
    (member : l.node ∈ chain.destinations) :
    (∀ pace h r s₀ trials offers s d, s₀.registry.chain? l.node.source = some chain →
      Session (Around l pace) l h r s₀ trials offers s d →
      EndToEnd pace l chain.policy registry r trials offers s d)
    ∧ (∀ consumer h r choice d t s' d', Delivery.step? consumer l h r choice t d = some (s', d') →
      s'.broker = (d.offers t).foldl (fun b o => (b.publish o.copy t.clock.wall).2) t.broker)
    ∧ (∀ (s : Simulation) h r result, (s.process l h r).1 = some result →
      ∃ trials offers, Session (Around l .prompt) l h r s.toStage trials offers
        (s.process l h r).2.toStage (.ended result))
    ∧ ∀ (s : Simulation) h r steps, s.registry.chain? l.node.source = some chain →
      2 * (Delivery.start l r).stepsLeft l ≤ steps →
      (s.deliverWithin l h r (.start l r) steps).2.isOver = true := by
  subst planned
  obtain ⟨p, serves, positive⟩ := Planning.serves inForce member
  refine ⟨?_, ?_, ?_, ?_⟩
  · intro pace h r s₀ trials offers s d hchain session
    exact session.endToEnd serves positive hchain
  · intro consumer h r choice d t s' d' taken
    exact (Move.of_step taken).broker_offers
  · intro s h r result hprocess
    obtain ⟨trials, offers, hsession⟩ := Simulation.session_of_process hprocess
    exact ⟨trials, offers, hsession.mono fun _ _ _ halone => halone.toAround l .prompt⟩
  · intro s h r steps hchain enough
    have hsame := hchain.trans serves.inForce.symm
    exact Simulation.isOver_of_deliverWithin steps (serves.of_chain hsame) (Or.inl enough)

namespace Orders

/-- A chain with two attempts at each node is built and put in force. -/
def persisting : List Planning.Call :=
  [.process 0 "orders" (Level.forChain [10] 2 true true) {} {}, .register 0]

/-- The chain: a main node, one retry node, and the dead-letter node. -/
def persistingChain : Chain := ((Planning.run persisting).registry.chain? "orders").getD default

/-- Serves the main node, with five milliseconds between two attempts. -/
def persistingListener : Listener where
  node := (persistingChain.destinations[0]?).getD default
  blockingInterval := 5

/-- A simulation in which the handler always fails. -/
def persistingFailure : Simulation where
  registry := (Planning.run persisting).registry
  scripts := [("main", { rest := { result := .failed fault } })]

end Orders

open Orders Delivery in
/-- After two failures at the main node the record is on the retry topic. -/
theorem one_delivery_end_to_end_of_two_failures :
    (persistingFailure.process persistingListener (.named "main") { topic := "orders" }).1
        = some (.ok (.forwarded "orders-retry"))
      ∧ ∃ trials offers s, Session (Around persistingListener .prompt) persistingListener (.named "main")
          { topic := "orders" } persistingFailure.toStage trials offers s
          (.ended (.ok (.forwarded "orders-retry")))
        ∧ EndToEnd .prompt persistingListener persistingChain.policy persistingFailure.registry
          { topic := "orders" } trials offers s (.ended (.ok (.forwarded "orders-retry"))) := by
  have hprocess : (persistingFailure.process persistingListener (.named "main")
      { topic := "orders" }).1 = some (.ok (.forwarded "orders-retry")) := by
    decide +kernel
  have hchain : (Planning.run persisting).registry.chain? persistingListener.node.source
      = some persistingChain := by
    decide +kernel
  obtain ⟨hsessions, _, hsimulated, _⟩ := one_delivery_end_to_end persisting rfl hchain
    (by decide +kernel)
  obtain ⟨trials, offers, hsession⟩ := hsimulated persistingFailure _ _ _ hprocess
  exact ⟨hprocess, trials, offers, _, hsession, hsessions _ _ _ _ _ _ _ _ hchain hsession⟩

end Redelivery
