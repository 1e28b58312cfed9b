/-
  Redelivery.Proofs.Journey.Fate
  ──────────────────────────────
  **The fate of a record depends on the road alone.**

  A call that fails for a retry takes the journey one entry further on its
  road; a fatal failure, or a failure at the end of the road, takes it to the
  terminal node.  So the call that decides is found among the results
  (`Decisive`), and with `n` its number:

      calls = n + 1        hops = the delays among the first n entries
-/
import Redelivery.Proofs.Journey.Steps

namespace Redelivery

namespace Journey

variable {chain : Chain} {main terminal : Destination} {retries later : List Destination}
  {crew : Crew} {handler : String} {results : Nat → Option Failure} {moment : Nat → Moment}
  {path : Nat → Journey} {a : UInt32} {f : Failure} {t : Nat}

/-! ## §1. The terminal node. -/

/-- A terminal node that drops no record keeps dead letters. -/
theorem isDeadLetter_of_isTerminal {d : Destination} (hterminal : d.role.isTerminal = true)
    (hnoOps : d.isNoOps = false) : d.isDeadLetter = true := by
  unfold Destination.isNoOps at hnoOps
  unfold Destination.isDeadLetter
  cases hrole : d.role with
  | main =>
      rw [hrole] at hterminal
      cases hterminal
  | retry =>
      rw [hrole] at hterminal
      cases hterminal
  | deadLetter => rfl
  | noOps =>
      rw [hrole] at hnoOps
      cases hnoOps

section Ends

/-- The terminal node has a name of its own. -/
theorem Smooth.leaves_terminal (smooth : Smooth chain main retries terminal moment) {j : Journey}
    (hat : AtCall main retries later a j) :
    (crew.listener j.node).staysInPlace terminal = false := by
  obtain ⟨before, hplace⟩ := hat.place
  obtain ⟨_, hnames, _, _⟩ := smooth.at_place hplace
  have hne := name_ne_of_mem hnames (List.mem_append_right later (List.mem_singleton_self terminal))
  unfold Listener.staysInPlace
  show (terminal.name == j.node.name && _) = false
  rw [beq_false_of_ne hne]
  rfl

/-- **A record that goes to the terminal node ends there.** -/
theorem exists_terminal (travels : Travels chain crew handler results moment path)
    (calm : Calm chain moment) (hcall : (path t).delivery = .calling a)
    (hresult : results (path t).calls = some f) (leads : LeadsTo crew moment path t a f terminal)
    (hleaves : (crew.listener (path t).node).staysInPlace terminal = false)
    (hterminal : terminal.role.isTerminal = true) (hmem : terminal ∈ chain.destinations) :
    ∃ t', path t' = { path t with
      delivery := .ended (.ok (endAt terminal))
      calls := (path t).calls + 1 } := by
  unfold endAt
  cases hnoOps : terminal.isNoOps with
  | true =>
      -- without a topic there is nothing to publish, and the reply ends the delivery
      obtain ⟨t', d, _, rfl, hend⟩ := exists_concluded (P := fun d => d = .ended (.ok .dropped))
        travels calm hcall hresult
        (by
          intro t' wake choice hnode hrecord hdue
          have hverdict := Listener.verdict_of_noOps (leads t' hnode hrecord) hleaves hnoOps
          exact ⟨_, _, rfl, (Delivery.Move.finished hdue hverdict).step?⟩)
        (by
          intro topic heq
          cases heq)
      exact ⟨t', hend⟩
  | false =>
      have hdead := isDeadLetter_of_isTerminal hterminal hnoOps
      have houtcome : Listener.outcomeOf terminal = .deadLettered terminal.name := by
        unfold Listener.outcomeOf
        rw [hdead]
        rfl
      obtain ⟨t₁, now, wake, _, hpublishing⟩ := exists_leaving travels calm hcall hresult leads
        hleaves hnoOps
      obtain ⟨t₂, stage, offset, stamp, _, hsame, _, hstep⟩ :=
        exists_published travels calm (t := t₁) (by rw [hpublishing]) ⟨terminal, hmem, rfl⟩
      refine ⟨t₂ + 1, ?_⟩
      rw [houtcome] at hstep
      rw [travels t₂, hsame, next_of_some hstep (fun topic heq => by cases heq), hpublishing]
      rfl

end Ends

/-! ## §2. One entry of the road. -/

section Onward

theorem onward?_of_fatal {node : Destination} {after : List Destination}
    (hfatal : chain.policy.classifier.isFatal f = true) :
    chain.onward? node after a f = chain.terminal? := by
  unfold Chain.onward?
  rw [hfatal]
  rfl

theorem onward?_of_lt {node : Destination} {after : List Destination}
    (hretry : chain.policy.classifier.isFatal f = false)
    (hless : a.toNat < node.maxAttempts.toNat) : chain.onward? node after a f = some node := by
  unfold Chain.onward?
  rw [hretry, if_pos (UInt32.lt_iff_toNat_lt.2 hless)]
  rfl

theorem onward?_of_not_lt {node : Destination} {after : List Destination}
    (hretry : chain.policy.classifier.isFatal f = false)
    (hnot : ¬a.toNat < node.maxAttempts.toNat) : chain.onward? node after a f = after.head? := by
  unfold Chain.onward?
  rw [hretry, if_neg (fun hless => hnot (UInt32.lt_iff_toNat_lt.1 hless))]
  rfl

end Onward

theorem ahead_of_lt {node : Destination} (hless : a.toNat < node.maxAttempts.toNat)
    {b : UInt32} (hb : b.toNat = a.toNat + 1) :
    ahead node a later = node.again :: ahead node b later := by
  have hcount : node.maxAttempts.toNat - a.toNat = node.maxAttempts.toNat - b.toNat + 1 := by omega
  unfold ahead
  rw [hcount, List.replicate_succ]
  rfl

theorem ahead_of_last {node d : Destination} (hlast : ¬a.toNat < node.maxAttempts.toNat)
    {b : UInt32} (hb : b.toNat = 1) :
    ahead node a (d :: later) = some d.delay :: ahead d b later := by
  have hcount : node.maxAttempts.toNat - a.toNat = 0 := by omega
  unfold ahead
  rw [hcount, hb, List.flatMap_cons]
  rfl

section Advance

variable (travels : Travels chain crew handler results moment path)
  (smooth : Smooth chain main retries terminal moment)
  (hat : AtCall main retries later a (path t)) (hresult : results (path t).calls = some f)
  (hretry : chain.policy.classifier.isFatal f = false)

include smooth in
theorem Smooth.not_deadLetter {j : Journey} (hat : AtCall main retries later a j) :
    j.node.isDeadLetter = false := by
  obtain ⟨before, hplace⟩ := hat.place
  obtain ⟨_, _, _, hrole⟩ := smooth.at_place hplace
  unfold Destination.isDeadLetter
  rcases hrole with ⟨hrole, _⟩ | hrole
  · rw [hrole]
    rfl
  · rw [hrole]
    rfl

include smooth in
/-- Only a retry node stands for several levels. -/
theorem Smooth.role_of_reusable {j : Journey} (hat : AtCall main retries later a j)
    (hreusable : j.node.reusable = true) : j.node.role = .retry := by
  obtain ⟨before, hplace⟩ := hat.place
  obtain ⟨_, _, _, hrole⟩ := smooth.at_place hplace
  rcases hrole with ⟨_, hplain⟩ | hrole
  · rw [hreusable] at hplain
    cases hplain
  · exact hrole

/-- A node behind another one is not the main node. -/
theorem mem_retries_of_split {before : List Destination} {node d : Destination}
    (hplace : main :: retries = before ++ node :: later) (hd : d ∈ later) : d ∈ retries := by
  cases before with
  | nil =>
      injection hplace with _ hretries
      rw [hretries]
      exact hd
  | cons first before =>
      injection hplace with _ hretries
      rw [hretries]
      exact List.mem_append_right before (List.mem_cons_of_mem node hd)

include travels smooth hat hresult hretry

/-- The attempts of a plain node are made in place. -/
theorem exists_advance_inPlace (hless : a.toNat < (path t).node.maxAttempts.toNat)
    (hreusable : (path t).node.reusable = false) :
    ∃ t', AtCall main retries later (a + 1) (path t') ∧ (path t').node = (path t).node
      ∧ (path t').calls = (path t).calls + 1 ∧ (path t').hops = (path t).hops := by
  have hnext : chain.onward? (path t).node (later ++ [terminal]) a f = some (path t).node :=
    onward?_of_lt hretry hless
  have hstays : (crew.listener (path t).node).staysInPlace (path t).node = true := by
    unfold Listener.staysInPlace Destination.countsDeliveries
    show ((path t).node.name == (path t).node.name
      && !((path t).node.reusable || (path t).node.isDeadLetter)) = true
    rw [beq_self_eq_true, hreusable, smooth.not_deadLetter hat]
    rfl
  have hsucc := smooth.toNat_succ hat
  obtain ⟨t', hagain⟩ := exists_again travels smooth.calm hat.delivery hresult
    (smooth.leadsTo hat hnext) hstays
  refine ⟨t', ?_, ?_, ?_, ?_⟩
  · rw [hagain]
    exact ⟨hat.place, rfl, by omega, by rw [hsucc]; exact hless⟩
  · rw [hagain]
  · rw [hagain]
  · rw [hagain]

/-- A node that counts deliveries has the record published to its own topic again. -/
theorem exists_advance_again (hless : a.toNat < (path t).node.maxAttempts.toNat)
    (hreusable : (path t).node.reusable = true) :
    ∃ t', AtCall main retries later (a + 1) (path t') ∧ (path t').node = (path t).node
      ∧ (path t').calls = (path t).calls + 1
      ∧ (path t').hops = (path t).hops ++ [(path t).node.delay] := by
  have hnext : chain.onward? (path t).node (later ++ [terminal]) a f = some (path t).node :=
    onward?_of_lt hretry hless
  have hcounts : (path t).node.countsDeliveries = true := by
    unfold Destination.countsDeliveries
    rw [hreusable]
    rfl
  have hleaves : (crew.listener (path t).node).staysInPlace (path t).node = false := by
    unfold Listener.staysInPlace
    show ((path t).node.name == (path t).node.name && !(path t).node.countsDeliveries) = false
    rw [hcounts, Bool.not_true, Bool.and_false]
  have hsucc := smooth.toNat_succ hat
  obtain ⟨before, hplace⟩ := hat.place
  have hnodes : main :: retries ++ [terminal] = before ++ (path t).node :: (later ++ [terminal]) := by
    rw [hplace, List.append_assoc]
    rfl
  obtain ⟨t', r, _, _, _, _, hr, hhop⟩ := exists_hop travels smooth.calm hat.delivery hresult
    (smooth.leadsTo hat hnext) hleaves (smooth.role_of_reusable hat hreusable)
    (smooth.get?_name hnodes)
  have hcount := smooth.toNat_attempt_copyFor hat (fun _ => hless) hr
  rw [if_pos rfl] at hcount
  -- the count is read back from the copy
  have hattempt : (crew.listener (path t).node).firstAttempt r = a + 1 := by
    unfold Listener.firstAttempt
    show (if (path t).node.countsDeliveries = true then r.headers.attempt else 1) = _
    rw [if_pos hcounts]
    exact UInt32.toNat_inj.1 (hcount.trans hsucc.symm)
  refine ⟨t', ?_, ?_, ?_, ?_⟩
  · rw [hhop]
    exact ⟨⟨before, hplace⟩, congrArg Delivery.calling hattempt, by omega, by rw [hsucc]; exact hless⟩
  · rw [hhop]
  · rw [hhop]
  · rw [hhop]

/-- After the last attempt at a node the record goes to the node behind it. -/
theorem exists_advance_next {d : Destination} {rest : List Destination}
    (hlast : ¬a.toNat < (path t).node.maxAttempts.toNat) (hlater : later = d :: rest) :
    ∃ t', AtCall main retries rest 1 (path t') ∧ (path t').node = d
      ∧ (path t').calls = (path t).calls + 1 ∧ (path t').hops = (path t).hops ++ [d.delay] := by
  have hnext : chain.onward? (path t).node (later ++ [terminal]) a f = some d := by
    rw [onward?_of_not_lt hretry hlast, hlater]
    rfl
  obtain ⟨before, hplace⟩ := hat.place
  obtain ⟨_, hnames, _, _⟩ := smooth.at_place hplace
  have hd : d ∈ later ++ [terminal] := by
    rw [hlater]
    exact List.mem_append_left _ List.mem_cons_self
  have hne : d.name ≠ (path t).node.name := name_ne_of_mem hnames hd
  have hleaves : (crew.listener (path t).node).staysInPlace d = false := by
    unfold Listener.staysInPlace
    show (d.name == (path t).node.name && _) = false
    rw [beq_false_of_ne hne]
    rfl
  have hsplit : main :: retries = (before ++ [(path t).node]) ++ d :: rest := by
    rw [hplace, hlater, List.append_assoc]
    rfl
  have hretryNode : d ∈ retries := by
    apply mem_retries_of_split hplace
    rw [hlater]
    exact List.mem_cons_self
  have hnodes : main :: retries ++ [terminal]
      = before ++ [(path t).node] ++ d :: (rest ++ [terminal]) := by
    rw [hsplit, List.append_assoc (before ++ [(path t).node])]
    rfl
  obtain ⟨t', r, _, _, _, _, hr, hhop⟩ := exists_hop travels smooth.calm hat.delivery hresult
    (smooth.leadsTo hat hnext) hleaves (smooth.shaped.retry_roles d hretryNode)
    (smooth.get?_name hnodes)
  have hcount := smooth.toNat_attempt_copyFor hat (fun hsame => absurd hsame hne) hr
  rw [if_neg hne] at hcount
  have hattempt : (crew.listener d).firstAttempt r = 1 := by
    unfold Listener.firstAttempt
    split
    · exact UInt32.toNat_inj.1 hcount
    · rfl
  refine ⟨t', ?_, ?_, ?_, ?_⟩
  · rw [hhop]
    exact ⟨⟨_, hsplit⟩, congrArg Delivery.calling hattempt, Nat.le_refl 1,
      (smooth.attempts d (List.mem_cons_of_mem main hretryNode)).1⟩
  · rw [hhop]
  · rw [hhop]
  · rw [hhop]

/-- **A failure that is worth a retry takes the first entry of the road.** -/
theorem exists_advance {x : Option UInt64} {rest : List (Option UInt64)}
    (hroad : ahead (path t).node a later = x :: rest) :
    ∃ t' later' a', AtCall main retries later' a' (path t')
      ∧ ahead (path t').node a' later' = rest
      ∧ (path t').calls = (path t).calls + 1 ∧ (path t').hops = (path t).hops ++ x.toList := by
  -- in place, to the node itself, or to the node behind: the three kinds of entries of a road
  by_cases hless : a.toNat < (path t).node.maxAttempts.toNat
  · rw [ahead_of_lt hless (smooth.toNat_succ hat), List.cons.injEq] at hroad
    obtain ⟨hx, hrest⟩ := hroad
    unfold Destination.again at hx
    cases hreusable : (path t).node.reusable with
    | false =>
        obtain ⟨t', hat', hnode, hcalls, hhops⟩ :=
          exists_advance_inPlace travels smooth hat hresult hretry hless hreusable
        rw [hreusable] at hx
        refine ⟨t', later, a + 1, hat', hnode ▸ hrest, hcalls, ?_⟩
        rw [hhops, ← hx]
        exact (List.append_nil _).symm
    | true =>
        obtain ⟨t', hat', hnode, hcalls, hhops⟩ :=
          exists_advance_again travels smooth hat hresult hretry hless hreusable
        rw [hreusable] at hx
        refine ⟨t', later, a + 1, hat', hnode ▸ hrest, hcalls, ?_⟩
        rw [hhops, ← hx]
        rfl
  · cases hlater : later with
    | nil =>
        -- nothing is ahead of the last attempt at the last retry node
        rw [hlater] at hroad
        unfold ahead at hroad
        rw [Nat.sub_eq_zero_of_le (Nat.le_of_not_lt hless)] at hroad
        cases hroad
    | cons d after =>
        obtain ⟨t', hat', hnode, hcalls, hhops⟩ :=
          exists_advance_next travels smooth hat hresult hretry hless hlater
        rw [hlater, ahead_of_last hless (b := 1) rfl, List.cons.injEq] at hroad
        obtain ⟨hx, hrest⟩ := hroad
        refine ⟨t', after, 1, hat', hnode ▸ hrest, hcalls, ?_⟩
        rw [hhops, ← hx]
        rfl

end Advance

end Journey

end Redelivery
