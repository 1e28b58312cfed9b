/-
  Redelivery.Proofs.Journey.Reuse
  ───────────────────────────────
  **Sharing retry topics does not change what becomes of a record.**

  With neighbouring levels on one topic, attempts are counted in a header
  through publishes to that topic; without, each level has a topic of its own.
  Both chains have roads of one length, and where every level has one attempt
  it is the same road.  So the call that decides is the same, and with it the
  number of calls and the end.
-/
import Redelivery.Proofs.Journey.Fate

namespace Redelivery

/-! ## §1. The call that decides. -/

/-- Call number `n`, counted from zero, decides: all results before it are worth a retry, and it
succeeds, or fails for good, or is the last of the calls that there can be. -/
structure Decisive (classifier : Classifier) (most : Nat) (results : Nat → Option Failure)
    (n : Nat) : Prop where
  retried : ∀ i, i < n → ∃ f, results i = some f ∧ classifier.isFatal f = false
  within : n < most
  decides : results n = none
    ∨ ∃ f, results n = some f ∧ (classifier.isFatal f = true ∨ n + 1 = most)

/-- Some call decides. -/
theorem exists_decisive (classifier : Classifier) (results : Nat → Option Failure) {most : Nat}
    (hpos : 0 < most) : ∃ n, Decisive classifier most results n := by
  -- induction on the calls that are left
  have hfrom : ∀ left k, k + left = most → 0 < left →
      (∀ i, i < k → ∃ f, results i = some f ∧ classifier.isFatal f = false) →
      ∃ n, Decisive classifier most results n := by
    intro left
    induction left with
    | zero =>
        intro k _ hleft _
        omega
    | succ left ih =>
        intro k hk _ hretried
        cases hresult : results k with
        | none => exact ⟨k, hretried, by omega, Or.inl hresult⟩
        | some f =>
            cases hfatal : classifier.isFatal f with
            | true => exact ⟨k, hretried, by omega, Or.inr ⟨f, hresult, Or.inl hfatal⟩⟩
            | false =>
                by_cases hlast : k + 1 = most
                · exact ⟨k, hretried, by omega, Or.inr ⟨f, hresult, Or.inr hlast⟩⟩
                · refine ih (k + 1) (by omega) (by omega) ?_
                  intro i hi
                  by_cases hik : i = k
                  · subst hik
                    exact ⟨f, hresult, hfatal⟩
                  · exact hretried i (by omega)
  exact hfrom most 0 (by omega) hpos (fun i hi => by omega)

/-- No call before a deciding one decides. -/
theorem Decisive.le {classifier : Classifier} {most n m : Nat} {results : Nat → Option Failure}
    (hn : Decisive classifier most results n) (hm : Decisive classifier most results m) : n ≤ m := by
  by_cases hle : n ≤ m
  · exact hle
  · -- call number m was worth a retry, and so it can only decide as the last one
    obtain ⟨f, hresult, hretry⟩ := hn.retried m (by omega)
    have hwithin := hn.within
    rcases hm.decides with hnone | ⟨g, hsome, hend⟩
    · rw [hresult] at hnone
      cases hnone
    · rw [hresult] at hsome
      cases hsome
      rcases hend with hfatal | hlast
      · rw [hretry] at hfatal
        cases hfatal
      · omega

/-- **Only one call decides.** -/
theorem Decisive.unique {classifier : Classifier} {most n m : Nat}
    {results : Nat → Option Failure} (hn : Decisive classifier most results n)
    (hm : Decisive classifier most results m) : n = m :=
  Nat.le_antisymm (hn.le hm) (hm.le hn)

/-! ## §2. The end of a journey. -/

namespace Journey

/-- The journey is over, after so many calls and these hops. -/
structure Over (outcome : Outcome) (calls : Nat) (hops : List UInt64) (j : Journey) : Prop where
  delivery : j.delivery = .ended (.ok outcome)
  calls : j.calls = calls
  hops : j.hops = hops

variable {chain : Chain} {main terminal : Destination} {retries : List Destination} {crew : Crew}
  {handler : String} {results : Nat → Option Failure} {moment : Nat → Moment}
  {path : Nat → Journey}

/-- At the end of the road the terminal node is next. -/
theorem onward?_of_nil {node : Destination} {a : UInt32} {later : List Destination} {f : Failure}
    (hretry : chain.policy.classifier.isFatal f = false) (hroad : ahead node a later = []) :
    chain.onward? node (later ++ [terminal]) a f = some terminal := by
  unfold ahead at hroad
  obtain ⟨hnone, hlater⟩ := List.append_eq_nil_iff.1 hroad
  have hcount : node.maxAttempts.toNat - a.toNat = 0 := by
    rw [List.replicate_eq_nil_iff] at hnone
    exact hnone
  have hlast : ¬a.toNat < node.maxAttempts.toNat := by omega
  rw [onward?_of_not_lt hretry hlast]
  cases later with
  | nil => rfl
  | cons d later => cases hlater

/-- A journey ends with a call that decides. -/
theorem exists_over_now (travels : Travels chain crew handler results moment path)
    (smooth : Smooth chain main retries terminal moment) {later : List Destination} {a : UInt32}
    {t : Nat} (hat : AtCall main retries later a (path t))
    (hdecides : results (path t).calls = none ∨ ∃ f, results (path t).calls = some f
      ∧ (chain.policy.classifier.isFatal f = true ∨ ahead (path t).node a later = [])) :
    ∃ t', Over (if (results (path t).calls).isNone then .processed else endAt terminal)
      ((path t).calls + 1) (path t).hops (path t') := by
  rcases hdecides with hnone | ⟨f, hsome, hend⟩
  · obtain ⟨t', hprocessed⟩ := exists_processed travels smooth.calm hat.delivery hnone
    refine ⟨t', ?_⟩
    rw [hprocessed, hnone]
    exact ⟨rfl, rfl, rfl⟩
  · have hnext : chain.onward? (path t).node (later ++ [terminal]) a f = some terminal := by
      cases hfatal : chain.policy.classifier.isFatal f with
      | true =>
          rw [onward?_of_fatal hfatal]
          unfold Chain.terminal?
          rw [smooth.nodes, List.getLast?_concat]
      | false =>
          rcases hend with hend | hend
          · rw [hfatal] at hend
            cases hend
          · exact onward?_of_nil hfatal hend
    have hmem : terminal ∈ chain.destinations := by
      rw [smooth.nodes]
      exact List.mem_append_right _ (List.mem_singleton_self terminal)
    obtain ⟨t', hterminal⟩ := exists_terminal travels smooth.calm hat.delivery hsome
      (smooth.leadsTo hat hnext) (smooth.leaves_terminal hat) smooth.shaped.terminal_role hmem
    refine ⟨t', ?_⟩
    rw [hterminal, hsome]
    exact ⟨rfl, rfl, rfl⟩

/-- **A journey ends with the call that decides**, after the hops on the road before it. -/
theorem exists_over (travels : Travels chain crew handler results moment path)
    (smooth : Smooth chain main retries terminal moment) {n : Nat} (road : List (Option UInt64)) :
    ∀ later a t, AtCall main retries later a (path t) → ahead (path t).node a later = road →
      Decisive chain.policy.classifier ((path t).calls + road.length + 1) results n →
      (path t).calls ≤ n →
      ∃ t', Over (if (results n).isNone then .processed else endAt terminal) (n + 1)
        ((path t).hops ++ (road.take (n - (path t).calls)).flatMap Option.toList) (path t') := by
  -- induction on the road that is left; each call that does not decide takes one entry of it
  induction road with
  | nil =>
      intro later a t hat hroad hdecisive hle
      have hwithin := hdecisive.within
      have hn : (path t).calls = n := by
        rw [List.length_nil] at hwithin
        omega
      subst hn
      have hdecides := hdecisive.decides
      obtain ⟨t', hover⟩ := exists_over_now travels smooth hat
        (hdecides.imp id fun ⟨f, hsome, _⟩ => ⟨f, hsome, Or.inr hroad⟩)
      refine ⟨t', ?_⟩
      rw [List.take_nil, List.flatMap_nil, List.append_nil]
      exact hover
  | cons x rest ih =>
      intro later a t hat hroad hdecisive hle
      rw [List.length_cons] at hdecisive
      by_cases hn : (path t).calls = n
      · subst hn
        obtain ⟨t', hover⟩ := exists_over_now travels smooth hat
          (hdecisive.decides.imp id fun ⟨f, hsome, hend⟩ => ⟨f, hsome, hend.imp id fun hlast => by
            omega⟩)
        refine ⟨t', ?_⟩
        rw [Nat.sub_self, List.take_zero, List.flatMap_nil, List.append_nil]
        exact hover
      · obtain ⟨f, hresult, hretry⟩ := hdecisive.retried (path t).calls (by omega)
        obtain ⟨t₁, later', a', hat', hroad', hcalls, hhops⟩ :=
          exists_advance travels smooth hat hresult hretry hroad
        have hmost : (path t).calls + (rest.length + 1) + 1 = (path t₁).calls + rest.length + 1 := by
          omega
        rw [hmost] at hdecisive
        obtain ⟨t', hover⟩ := ih later' a' t₁ hat' hroad' hdecisive (by omega)
        refine ⟨t', ?_⟩
        have htake : (x :: rest).take (n - (path t).calls) = x :: rest.take (n - (path t₁).calls) := by
          have hless : n - (path t).calls = (n - (path t₁).calls) + 1 := by omega
          rw [hless, List.take_succ_cons]
        rw [htake, List.flatMap_cons, ← List.append_assoc, ← hhops]
        exact hover

end Journey

/-! ## §3. Both ways to share topics. -/

/-- What becomes of a record whose deciding call has this result. -/
def fateOf (source : String) (levels : List Level) (naming : Naming) : Option Failure → Outcome
  | none => .processed
  | some _ =>
      if levels.getLast?.any fun l => l.role == .deadLetter then
        .deadLettered (source ++ naming.deadLetterSuffix)
      else .dropped

open Journey in
theorem endAt_ofLevel {source : String} {naming : Naming} {level : Level} {levels : List Level}
    (hlast : levels.getLast? = some level) (hterminal : level.role.isTerminal = true) (f : Failure) :
    endAt (.ofLevel source (source ++ terminalSuffix naming level) level)
      = fateOf source levels naming (some f) := by
  unfold endAt fateOf terminalSuffix
  rw [hlast]
  show (if (level.role == .noOps) = true then _ else _)
    = if (level.role == .deadLetter) = true then _ else _
  cases hrole : level.role with
  | main =>
      rw [hrole] at hterminal
      cases hterminal
  | retry =>
      rw [hrole] at hterminal
      cases hterminal
  | deadLetter => rfl
  | noOps => rfl

/-- Whatever the headers of a record, attempts at the main node are counted from one. -/
theorem firstAttempt_of_main {l : Listener} (hrole : l.node.role = .main)
    (hplain : l.node.reusable = false) (r : Record) : l.firstAttempt r = 1 := by
  have hcounts : l.node.countsDeliveries = false := by
    unfold Destination.countsDeliveries Destination.isDeadLetter
    rw [hplain, hrole]
    rfl
  unfold Listener.firstAttempt
  rw [hcounts]
  rfl

open Journey in
/-- **The fate of a record on a built chain**, whatever the sharing of topics. -/
theorem fate_of_buildNodes {source : String} {levels : List Level} {naming : Naming}
    {nodes : List Destination} (hbuilt : buildNodes source levels naming = .ok nodes)
    (hfit : callsOf levels ≤ 2147483647) {policy : Policy} (hpatient : policy.Patient)
    {results : Nat → Option Failure} {n : Nat}
    (hdecisive : Decisive policy.classifier (callsOf levels) results n) (crew : Crew)
    (handler : String) (r : Record) {moment : Nat → Moment}
    (calm : Calm ⟨source, nodes, policy⟩ moment) :
    ∃ main hops t, nodes.head? = some main
      ∧ (∀ t', t ≤ t' → Over (fateOf source levels naming (results n)) (n + 1) hops
          (travel ⟨source, nodes, policy⟩ crew handler results moment (start crew main r) t'))
      ∧ ((∀ l ∈ levels, l.role.isTerminal = false → l.maxAttempts = 1) →
          hops = (retryDelays levels).take n) := by
  obtain ⟨main, retries, terminal, rfl, paved⟩ := paved_of_buildNodes hbuilt hfit
  have smooth : Smooth ⟨source, main :: retries ++ [terminal], policy⟩ main retries terminal moment :=
    ⟨rfl, paved.shaped, paved.attempts, hpatient, calm⟩
  have travels := travels_travel ⟨source, main :: retries ++ [terminal], policy⟩ crew handler results
    moment (start crew main r)
  have hfirst : (crew.listener main).firstAttempt r = 1 :=
    firstAttempt_of_main (l := crew.listener main) paved.shaped.main_role paved.shaped.main_plain r
  have hat : AtCall main retries retries 1 (start crew main r) :=
    ⟨⟨[], rfl⟩, congrArg Delivery.calling hfirst, Nat.le_refl 1,
      (paved.attempts main List.mem_cons_self).1⟩
  have hmost : callsOf levels = 0 + (roadOf main retries).length + 1 := by
    rw [Nat.zero_add, paved.length]
  rw [hmost] at hdecisive
  obtain ⟨t, hover⟩ := exists_over travels smooth (roadOf main retries) retries 1 0 hat rfl
    hdecisive (Nat.zero_le n)
  obtain ⟨level, hlast, hends⟩ := paved.ends
  have houtcome : (if (results n).isNone then .processed else endAt terminal)
      = fateOf source levels naming (results n) := by
    cases hresult : results n with
    | none => rfl
    | some f =>
        have hrole : level.role.isTerminal = true := by
          have hterminal := paved.shaped.terminal_role
          rw [hends] at hterminal
          exact hterminal
        rw [← endAt_ofLevel hlast hrole f, hends]
        rfl
  rw [houtcome] at hover
  refine ⟨main, ((roadOf main retries).take n).flatMap Option.toList, t, rfl, ?_, ?_⟩
  · intro t' hle
    rw [path_of_ended travels hover.delivery t' hle]
    exact hover
  · intro hone
    rw [paved.single hone, ← List.map_take, List.flatMap_map]
    exact List.flatMap_singleton' _

open Journey in
/-- **Sharing topics does not change the fate of a record.**  For both ways to share topics, every
record delivered on the main node comes, in calm surroundings, to the same end after the same number
of calls: those up to the first success, the first fatal failure or the last call that the levels
allow.  Where the main level and the retry levels have one attempt each, the hops have the same
delays. -/
theorem sharing_keeps_fate {source : String} {levels : List Level} {naming : Naming}
    {shared separate : List Destination}
    (hshared : buildNodes source levels { naming with reuse := .single } = .ok shared)
    (hseparate : buildNodes source levels { naming with reuse := .multiple } = .ok separate)
    (hfit : callsOf levels ≤ 2147483647) {policy : Policy} (hpatient : policy.Patient)
    (results : Nat → Option Failure) :
    ∃ n, Decisive policy.classifier (callsOf levels) results n
      ∧ ∀ nodes ∈ [shared, separate], ∀ crew handler r moment,
        Calm ⟨source, nodes, policy⟩ moment →
          ∃ main hops t, nodes.head? = some main
            ∧ (∀ t', t ≤ t' → Over (fateOf source levels naming (results n)) (n + 1) hops
                (travel ⟨source, nodes, policy⟩ crew handler results moment (start crew main r) t'))
            ∧ ((∀ l ∈ levels, l.role.isTerminal = false → l.maxAttempts = 1) →
                hops = (retryDelays levels).take n) := by
  obtain ⟨_, _, _, _, paved⟩ := paved_of_buildNodes hshared hfit
  have hpos : 0 < callsOf levels := by
    rw [← paved.length]
    exact Nat.succ_pos _
  obtain ⟨n, hdecisive⟩ := exists_decisive policy.classifier results hpos
  refine ⟨n, hdecisive, ?_⟩
  intro nodes hnodes crew handler r moment calm
  rcases List.mem_cons.1 hnodes with rfl | hnodes
  · exact fate_of_buildNodes hshared hfit hpatient hdecisive crew handler r calm
  · rw [List.mem_singleton] at hnodes
    subst hnodes
    exact fate_of_buildNodes hseparate hfit hpatient hdecisive crew handler r calm

/-! ## §4. Two retries of one delay. -/

/-- A chain in force and nothing else going on. -/
def quietMoment (chain : Chain) (t : Nat) : Moment where
  stage := { registry := ⟨[chain]⟩, clock := { elapsed := t } }

theorem calm_quietMoment (chain : Chain) : Calm chain (quietMoment chain) where
  inForce := by
    intro t
    show [chain].find? (fun c => c.source == chain.source) = some chain
    rw [List.find?_cons, beq_self_eq_true]
  accepted := fun _ _ _ => rfl
  time := fun n => ⟨n, fun _ hle => hle⟩

namespace Orders

/-- A main level, two retry levels of one second each, dead letters. -/
def levels : List Level := Level.forChain [1000, 1000] 1 true true

/-- The nodes if both retry levels share one. -/
def shared : List Destination :=
  [main, ⟨"orders", "orders-retry", .retry, 1000, 2, true, true⟩, deadLetters]

/-- The nodes if each retry level has its own. -/
def separate : List Destination :=
  [main, ⟨"orders", "orders-retry-0", .retry, 1000, 1, true, false⟩,
    ⟨"orders", "orders-retry-1", .retry, 1000, 1, true, false⟩, deadLetters]

/-- Two failures, then successes. -/
def results (n : Nat) : Option Failure := if n < 2 then some failure else none

/-- Listeners that do not rest between attempts. -/
def crew : Crew := ⟨fun _ => 0, fun _ => {}, fun _ => .error⟩

end Orders

open Journey Orders in
/-- Two failures and a success: three calls and two hops, on three nodes and on four. -/
theorem sharing_keeps_fate_of_two_failures :
    (∃ t, Over .processed 3 [1000, 1000]
      (travel ⟨"orders", shared, {}⟩ crew "main" results (quietMoment ⟨"orders", shared, {}⟩)
        (start crew Orders.main record) t))
    ∧ (∃ t, Over .processed 3 [1000, 1000]
      (travel ⟨"orders", separate, {}⟩ crew "main" results (quietMoment ⟨"orders", separate, {}⟩)
        (start crew Orders.main record) t)) := by
  have hshared : buildNodes "orders" levels { reuse := .single } = .ok shared := by decide +kernel
  have hseparate : buildNodes "orders" levels { reuse := .multiple } = .ok separate := by
    decide +kernel
  obtain ⟨n, hdecisive, hfate⟩ := @sharing_keeps_fate "orders" levels {} shared separate hshared
    hseparate (by decide) {} ⟨rfl, rfl⟩ results
  have hthird : Decisive (Policy.classifier {}) (callsOf levels) results 2 :=
    ⟨fun i hi => ⟨failure, if_pos hi, by decide +kernel⟩, by decide, Or.inl rfl⟩
  have hn := hdecisive.unique hthird
  subst hn
  -- the two strategies differ in the nodes only, which start at the same main node
  have hend : ∀ nodes ∈ [shared, separate], nodes.head? = some Orders.main →
      ∃ t, Over .processed 3 [1000, 1000]
        (travel ⟨"orders", nodes, {}⟩ crew "main" results (quietMoment ⟨"orders", nodes, {}⟩)
          (start crew Orders.main record) t) := by
    intro nodes hnodes hmain
    obtain ⟨first, hops, t, hhead, hover, hdelays⟩ := hfate nodes hnodes crew "main" record
      (quietMoment ⟨"orders", nodes, {}⟩) (calm_quietMoment ⟨"orders", nodes, {}⟩)
    rw [hmain] at hhead
    have hfirst : first = Orders.main := (Option.some.inj hhead).symm
    have hhops : hops = [1000, 1000] := hdelays (by decide)
    rw [hfirst, hhops] at hover
    exact ⟨t, hover t (Nat.le_refl t)⟩
  exact ⟨hend shared (List.mem_cons_self ..) rfl,
    hend separate (List.mem_cons_of_mem _ (List.mem_cons_self ..)) rfl⟩

end Redelivery
