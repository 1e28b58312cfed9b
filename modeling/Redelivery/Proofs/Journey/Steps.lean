/-
  Redelivery.Proofs.Journey.Steps
  ───────────────────────────────
  **From one call of the handler to the next.**

  A journey that is about to make a call (`AtCall`) comes, some moments later,
  to the reply, and from there to one of three ends or to the next call:

      success              → processed
      fatal, or the last   → terminal node
      otherwise            → one attempt further on the road

  `ahead` is the road that is left; each further call takes its first entry.
-/
import Redelivery.Proofs.Bus.Logs
import Redelivery.Proofs.Delivery.Hops
import Redelivery.Proofs.Journey.Basic
import Redelivery.Proofs.Topology.Road
import Redelivery.Proofs.Topology.Routes

namespace Redelivery

namespace Journey

/-- A well-built chain without shortcuts, in calm surroundings. -/
structure Smooth (chain : Chain) (main : Destination) (retries : List Destination)
    (terminal : Destination) (moment : Nat → Moment) : Prop where
  nodes : chain.destinations = main :: retries ++ [terminal]
  shaped : Shaped chain.source main retries terminal
  attempts : ∀ d ∈ main :: retries, 1 ≤ d.maxAttempts.toNat ∧ d.maxAttempts.toNat ≤ 2147483647
  patient : chain.policy.Patient
  calm : Calm chain moment

/-- The journey is about to make attempt number `a` at its node, with the retry nodes `later` behind
it. -/
structure AtCall (main : Destination) (retries later : List Destination) (a : UInt32)
    (j : Journey) : Prop where
  place : ∃ before, main :: retries = before ++ j.node :: later
  delivery : j.delivery = .calling a
  low : 1 ≤ a.toNat
  high : a.toNat ≤ j.node.maxAttempts.toNat

/-- The road that is left after attempt number `a` at a node. -/
def ahead (node : Destination) (a : UInt32) (later : List Destination) : List (Option UInt64) :=
  List.replicate (node.maxAttempts.toNat - a.toNat) node.again ++ later.flatMap Destination.road

/-- How a record ends that comes to the terminal node. -/
def endAt (terminal : Destination) : Outcome :=
  if terminal.isNoOps then .dropped else .deadLettered terminal.name

variable {chain : Chain} {main terminal : Destination} {retries later : List Destination}
  {crew : Crew} {handler : String} {results : Nat → Option Failure} {moment : Nat → Moment}
  {path : Nat → Journey} {a : UInt32} {f : Failure} {t : Nat}

/-! ## §1. Waiting. -/

section Waiting

variable (travels : Travels chain crew handler results moment path)
include travels

/-- A waiting journey stays as it is until its time has come. -/
theorem exists_awake (calm : Calm chain moment) {wake : Nat}
    (h : (path t).delivery.wake? = some wake) :
    ∃ t', t ≤ t' ∧ wake ≤ (moment t').stage.clock.elapsed ∧ path t' = path t := by
  obtain ⟨last, hlast⟩ := calm.time wake
  -- induction on the moments that are left until the clock is surely past
  have hwait : ∀ n t, last ≤ t + n → (path t).delivery.wake? = some wake →
      ∃ t', t ≤ t' ∧ wake ≤ (moment t').stage.clock.elapsed ∧ path t' = path t := by
    intro n
    induction n with
    | zero =>
        intro t hle _
        exact ⟨t, Nat.le_refl t, hlast t hle, rfl⟩
    | succ n ih =>
        intro t hle hwake
        by_cases hdue : wake ≤ (moment t).stage.clock.elapsed
        · exact ⟨t, Nat.le_refl t, hdue, rfl⟩
        · have hstays : path (t + 1) = path t := by
            rw [travels t]
            exact next_of_wake hwake (by omega)
          obtain ⟨t', hle', hdue', hsame⟩ := ih (t + 1) (by omega) (by rw [hstays]; exact hwake)
          exact ⟨t', by omega, hdue', hsame.trans hstays⟩
  exact hwait last t (by omega) h

/-- A journey that has ended stays as it is. -/
theorem path_of_ended {result : Except Error Outcome} (h : (path t).delivery = .ended result) :
    ∀ t', t ≤ t' → path t' = path t := by
  intro t' hle
  obtain ⟨n, rfl⟩ := Nat.exists_eq_add_of_le hle
  clear hle
  induction n with
  | zero => rfl
  | succ n ih =>
      show path (t + n + 1) = path t
      rw [travels (t + n), ih]
      exact next_of_ended h

end Waiting

/-! ## §2. Routes. -/

section Routes

variable (smooth : Smooth chain main retries terminal moment)
include smooth

theorem Smooth.at_place {before : List Destination} {node : Destination}
    (hplace : main :: retries = before ++ node :: later) :
    chain.destinations = before ++ node :: (later ++ [terminal])
      ∧ ((before ++ node :: (later ++ [terminal])).map Destination.name).Nodup
      ∧ node.source = chain.source
      ∧ (node.role = .main ∧ node.reusable = false ∨ node.role = .retry) := by
  have hsplit : main :: retries ++ [terminal] = before ++ node :: (later ++ [terminal]) := by
    rw [hplace, List.append_assoc, List.cons_append]
  have hmem : node ∈ main :: retries := by
    rw [hplace]
    exact List.mem_append_right before List.mem_cons_self
  refine ⟨smooth.nodes.trans hsplit, hsplit ▸ smooth.shaped.names,
    smooth.shaped.sources node (List.mem_append_left _ hmem), ?_⟩
  rcases List.mem_cons.1 hmem with rfl | hretry
  · exact Or.inl ⟨smooth.shaped.main_role, smooth.shaped.main_plain⟩
  · exact Or.inr (smooth.shaped.retry_roles node hretry)

/-- **Where a failed attempt leads**, whatever the moment. -/
theorem Smooth.routed {j : Journey} (hat : AtCall main retries later a j) {next : Destination}
    (hnext : chain.onward? j.node (later ++ [terminal]) a f = some next) (t : Nat) (now : Int64)
    (r : Record) :
    (crew.listener j.node).routed (moment t).stage.registry now r a f = .ok next := by
  obtain ⟨before, hplace⟩ := hat.place
  obtain ⟨hsplit, hnames, hsource, hrole⟩ := smooth.at_place hplace
  show (moment t).stage.registry.resolve j.node.source j.node.name a f _ _ = _
  rw [hsource]
  exact Registry.resolve_eq_onward? (smooth.calm.inForce t) smooth.patient hsplit (hsplit ▸ hnames)
    (hrole.imp And.left id) hnext

theorem Smooth.maxAttempts_le {j : Journey} (hat : AtCall main retries later a j) :
    j.node.maxAttempts.toNat ≤ 2147483647 := by
  obtain ⟨before, hplace⟩ := hat.place
  have hmem : j.node ∈ main :: retries := by
    rw [hplace]
    exact List.mem_append_right before List.mem_cons_self
  exact (smooth.attempts j.node hmem).2

/-- One attempt more does not wrap. -/
theorem Smooth.toNat_succ {j : Journey} (hat : AtCall main retries later a j) :
    (a + 1).toNat = a.toNat + 1 := by
  have hmax := smooth.maxAttempts_le hat
  have hhigh := hat.high
  rw [UInt32.toNat_add]
  show (a.toNat + 1) % 4294967296 = _
  omega

/-- A node of the chain is found under its name. -/
theorem Smooth.get?_name {before after : List Destination} {node : Destination}
    (hsplit : main :: retries ++ [terminal] = before ++ node :: after) :
    chain.get? node.name = some node := by
  have hnames := smooth.shaped.names
  rw [hsplit] at hnames
  unfold Chain.get? Chain.position?
  rw [smooth.nodes, hsplit, findIdx?_name hnames]
  show (before ++ node :: after)[before.length]? = some node
  rw [List.getElem?_append_right (Nat.le_refl _), Nat.sub_self]
  rfl

end Routes

/-! ## §3. The reply. -/

section Replies

variable (travels : Travels chain crew handler results moment path) (calm : Calm chain moment)
include travels calm

/-- **A call is made and its reply awaited.** -/
theorem exists_reply (hcall : (path t).delivery = .calling a) :
    ∃ t' wake, t ≤ t' ∧ wake ≤ (moment t').stage.clock.elapsed
      ∧ path t' = { path t with
          delivery := .handling a (replyOf (results (path t).calls)) wake
          calls := (path t).calls + 1 } := by
  have hnext := travels t
  rw [next_of_calling hcall] at hnext
  have hwake : (path (t + 1)).delivery.wake?
      = some ((moment t).stage.clock.elapsed + (moment t).delay) := by
    rw [hnext]
    rfl
  obtain ⟨t', hle, hdue, hsame⟩ := exists_awake travels calm hwake
  exact ⟨t', _, by omega, hdue, hsame.trans hnext⟩

/-- A success ends the journey. -/
theorem exists_processed (hcall : (path t).delivery = .calling a)
    (hresult : results (path t).calls = none) :
    ∃ t', path t' = { path t with
      delivery := .ended (.ok .processed)
      calls := (path t).calls + 1 } := by
  obtain ⟨t', wake, _, hdue, hreply⟩ := exists_reply travels calm hcall
  rw [hresult] at hreply
  refine ⟨t' + 1, ?_⟩
  rw [travels t', hreply]
  exact next_of_some (if_pos hdue) fun topic hd => by cases hd

/-- The surroundings accept a copy for a topic of the chain. -/
theorem exists_published {out : OutgoingRecord} {outcome : Outcome} {wake : Nat}
    (hpublishing : (path t).delivery = .publishing out outcome 0 wake)
    (htopic : ∃ d ∈ chain.destinations, d.name = out.topic) :
    ∃ t' stage offset now, t ≤ t' ∧ path t' = path t
      ∧ (stage.broker.records out.topic).getLast? = some (Broker.stored out offset now)
      ∧ (path t).delivery.step? (moment t').consumer (crew.listener (path t).node) (.named handler)
          (path t).record ((path t).choice results (moment t')) (moment t').stage
        = some (stage, .ended (.ok outcome)) := by
  have hwake : (path t).delivery.wake? = some wake := by
    rw [hpublishing]
    rfl
  obtain ⟨t', hle, hdue, hsame⟩ := exists_awake travels calm hwake
  have hanswer := calm.accepted t' out htopic
  have hrecords := Broker.records_publish hanswer out.topic
  rw [if_pos rfl] at hrecords
  refine ⟨t', { (moment t').stage with broker := _ }, _, _, hle, hsame,
    (by rw [hrecords, List.getLast?_concat]), ?_⟩
  rw [hpublishing]
  show (if wake ≤ (moment t').stage.clock.elapsed then _ else none) = _
  rw [if_pos hdue]
  simp only [Delivery.publish, Broker.publish_of_ok hanswer]

end Replies

/-! ## §4. After a failure. -/

/-- The concluded call leads to this delivery. -/
theorem exists_concluded {P : Delivery → Prop}
    (travels : Travels chain crew handler results moment path) (calm : Calm chain moment)
    (hcall : (path t).delivery = .calling a) (hresult : results (path t).calls = some f)
    (hsteps : ∀ t' wake choice, (path t').node = (path t).node →
      (path t').record = (path t).record → wake ≤ (moment t').stage.clock.elapsed → ∃ stage d, P d
      ∧ Delivery.step? (moment t').consumer (crew.listener (path t).node) (.named handler)
          (path t).record choice (moment t').stage (.handling a (.failed f) wake)
        = some (stage, d))
    (hP : ∀ topic, ¬P (.ended (.ok (.forwarded topic)))) :
    ∃ t' d, t < t' ∧ P d
      ∧ path t' = { path t with delivery := d, calls := (path t).calls + 1 } := by
  obtain ⟨t₁, wake, hle, hdue, hreply⟩ := exists_reply travels calm hcall
  rw [hresult] at hreply
  obtain ⟨stage, d, hd, hstep⟩ := hsteps t₁ wake ((path t₁).choice results (moment t₁))
    (by rw [hreply]) (by rw [hreply]) hdue
  refine ⟨t₁ + 1, d, Nat.lt_succ_of_le hle, hd, ?_⟩
  rw [hreply] at hstep
  rw [travels t₁, hreply]
  refine next_of_some hstep fun topic heq => ?_
  rw [heq] at hd
  exact hP topic hd

/-- Whenever the record that is at hand now is decided on, its failed attempt leads to this node. -/
def LeadsTo (crew : Crew) (moment : Nat → Moment) (path : Nat → Journey) (t : Nat) (a : UInt32)
    (f : Failure) (next : Destination) : Prop :=
  ∀ t', (path t').node = (path t).node → (path t').record = (path t).record →
    (crew.listener (path t).node).routed (moment t').stage.registry (moment t').stage.clock.wall
      (path t).record a f = .ok next

/-- Where a failed attempt leads on a well-built chain. -/
theorem Smooth.leadsTo (smooth : Smooth chain main retries terminal moment)
    (hat : AtCall main retries later a (path t)) {next : Destination}
    (hnext : chain.onward? (path t).node (later ++ [terminal]) a f = some next) :
    LeadsTo crew moment path t a f next :=
  fun t' _ _ => smooth.routed hat hnext t' _ _

/-- **The count that a copy carries is read back from it**: it is positive and has at most 31 bits. -/
theorem toNat_attempt_copyFor {l : Listener} {r : Record} {next : Destination} {now : Int64}
    (hsucc : (a + 1).toNat = a.toNat + 1) (offset : Nat) (stamp : Int64) :
    (Broker.stored (l.copyFor r f a now next) offset stamp).headers.attempt.toNat
      = if next.name = l.node.name then min (a.toNat + 1) 2147483647 else 1 := by
  have hcount : (if next.name = l.node.name then a + 1 else 1 : UInt32).toNat
      = if next.name = l.node.name then a.toNat + 1 else 1 := by
    split
    · exact hsucc
    · rfl
  have hread : (Broker.stored (l.copyFor r f a now next) offset stamp).headers.attempt.toNat
      = min (if next.name = l.node.name then a + 1 else 1 : UInt32).toNat 2147483647 :=
    Listener.toNat_attempt_outgoing (by
      show 0 < (if next.name = l.node.name then a + 1 else 1 : UInt32).toNat
      rw [hcount]
      split <;> omega)
  rw [hread, hcount]
  split <;> rfl

section Failures

variable {next : Destination} (travels : Travels chain crew handler results moment path)
  (calm : Calm chain moment) (hcall : (path t).delivery = .calling a)
  (hresult : results (path t).calls = some f) (leads : LeadsTo crew moment path t a f next)
include travels calm hcall hresult leads

/-- A record that stays in place is handled again. -/
theorem exists_again (hstays : (crew.listener (path t).node).staysInPlace next = true) :
    ∃ t', path t' = { path t with delivery := .calling (a + 1), calls := (path t).calls + 1 } := by
  obtain ⟨t₁, d, _, ⟨wake, rfl⟩, hresting⟩ := exists_concluded
    (P := fun d => ∃ wake, d = .resting (a + 1) wake) travels calm hcall hresult
    (by
      intro t' wake choice hnode hrecord hdue
      have hverdict := Listener.verdict_of_again (leads t' hnode hrecord) hstays
      exact ⟨_, _, ⟨_, rfl⟩, (Delivery.Move.again hdue hverdict).step?⟩)
    (by
      intro topic ⟨wake, heq⟩
      cases heq)
  have hwake : (path t₁).delivery.wake? = some wake := by
    rw [hresting]
    rfl
  obtain ⟨t₂, _, hdue, hsame⟩ := exists_awake travels calm hwake
  refine ⟨t₂ + 1, ?_⟩
  rw [travels t₂, hsame, hresting]
  exact next_of_resting rfl hdue

/-- A record that leaves its place is about to be published. -/
theorem exists_leaving (hleaves : (crew.listener (path t).node).staysInPlace next = false)
    (htopic : next.isNoOps = false) :
    ∃ t' now wake, t < t' ∧ path t' = { path t with
      delivery := .publishing ((crew.listener (path t).node).copyFor (path t).record f a now next)
        (Listener.outcomeOf next) 0 wake
      calls := (path t).calls + 1 } := by
  obtain ⟨t₁, d, hlt, ⟨now, wake, rfl⟩, hpublishing⟩ := exists_concluded
    (P := fun d => ∃ now wake, d = .publishing
      ((crew.listener (path t).node).copyFor (path t).record f a now next)
      (Listener.outcomeOf next) 0 wake) travels calm hcall hresult
    (by
      intro t' wake choice hnode hrecord hdue
      have hverdict := Listener.verdict_of_topic (leads t' hnode hrecord) hleaves htopic
      exact ⟨_, _, ⟨_, _, rfl⟩, (Delivery.Move.republishing hdue hverdict).step?⟩)
    (by
      intro topic ⟨now, wake, heq⟩
      cases heq)
  exact ⟨t₁, now, wake, hlt, hpublishing⟩

/-- **A hop to a retry node** is a delivery there, of the copy that was published. -/
theorem exists_hop (hleaves : (crew.listener (path t).node).staysInPlace next = false)
    (hrole : next.role = .retry) (hget : chain.get? next.name = some next) :
    ∃ t' r now offset stamp, t < t'
      ∧ r = Broker.stored ((crew.listener (path t).node).copyFor (path t).record f a now next) offset
          stamp
      ∧ path t' = ⟨next, r, .start (crew.listener next) r, (path t).calls + 1,
          (path t).hops ++ [next.delay]⟩ := by
  have hnoOps : next.isNoOps = false := by
    unfold Destination.isNoOps
    rw [hrole]
    rfl
  have houtcome : Listener.outcomeOf next = .forwarded next.name := by
    unfold Listener.outcomeOf Destination.isDeadLetter
    rw [hrole]
    rfl
  -- the copy is published at the first moment when it is due, and arrives in the same moment
  obtain ⟨t₁, now, wake, hlt, hpublishing⟩ := exists_leaving travels calm hcall hresult leads
    hleaves hnoOps
  obtain ⟨t₂, stage, offset, stamp, hle, hsame, hlast, hstep⟩ :=
    exists_published travels calm (t := t₁) (by rw [hpublishing])
      ⟨next, Chain.mem_of_get? hget, rfl⟩
  refine ⟨t₂ + 1, _, now, offset, stamp, by omega, rfl, ?_⟩
  rw [houtcome] at hstep
  rw [travels t₂, hsame, next_of_forwarded hstep, arrive_of_getLast? hget hlast, hpublishing]

end Failures

/-- The count of a copy that is made on a well-built chain. -/
theorem Smooth.toNat_attempt_copyFor (smooth : Smooth chain main retries terminal moment)
    (hat : AtCall main retries later a (path t)) {next : Destination}
    (hroom : next.name = (path t).node.name → a.toNat < (path t).node.maxAttempts.toNat)
    {r : Record} {now : Int64} {offset : Nat} {stamp : Int64}
    (hr : r = Broker.stored ((crew.listener (path t).node).copyFor (path t).record f a now next)
      offset stamp) :
    r.headers.attempt.toNat = if next.name = (path t).node.name then a.toNat + 1 else 1 := by
  have hcount : r.headers.attempt.toNat
      = if next.name = (path t).node.name then min (a.toNat + 1) 2147483647 else 1 :=
    hr ▸ Journey.toNat_attempt_copyFor (smooth.toNat_succ hat) offset stamp
  rw [hcount]
  split
  · rename_i hsame
    have hless := hroom hsame
    have hmax := smooth.maxAttempts_le hat
    omega
  · rfl

end Journey

end Redelivery
