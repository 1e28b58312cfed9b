/-
  Redelivery.Proofs.Topology.Road
  ───────────────────────────────
  **How each attempt of a chain is reached.**

  The road of a chain has one entry for every attempt beyond the first:
  `none` for an attempt in place, `some delay` for one that a hop leads to.
  It is as long as the levels ask for, however they share nodes, and where
  every level has one attempt it is the list of their delays.

      (roadOf main retries).length + 1 = callsOf levels
-/
import Redelivery.Proofs.Topology.Shape

namespace Redelivery

/-! ## §1. Roads. -/

namespace Destination

/-- How a further attempt at the node is reached: in place, or by a hop to the node again. -/
def again (d : Destination) : Option UInt64 := if d.reusable then some d.delay else none

/-- How the attempts at a retry node are reached: the first by a hop. -/
def road (d : Destination) : List (Option UInt64) :=
  some d.delay :: List.replicate (d.maxAttempts.toNat - 1) d.again

end Destination

/-- How every attempt but the first is reached. -/
def roadOf (main : Destination) (retries : List Destination) : List (Option UInt64) :=
  List.replicate (main.maxAttempts.toNat - 1) main.again ++ retries.flatMap Destination.road

/-- How many calls the levels of a chain ask for at most, dead letters apart. -/
def callsOf (levels : List Level) : Nat := attemptsOf (levels.filter fun l => !l.role.isTerminal)

/-- The delays of the retry levels. -/
def retryDelays (levels : List Level) : List UInt64 :=
  (levels.filter fun l => l.role == .retry).map Level.delay

/-- The roads of retry nodes are as long as their attempts add up to. -/
theorem length_flatMap_road {retries : List Destination}
    (hpos : ∀ d ∈ retries, 1 ≤ d.maxAttempts.toNat) :
    (retries.flatMap Destination.road).length
      = (retries.map fun d => d.maxAttempts.toNat).sum := by
  induction retries with
  | nil => rfl
  | cons d rest ih =>
      have hd := hpos d List.mem_cons_self
      have hrest := ih fun e he => hpos e (List.mem_cons_of_mem d he)
      have hroad : d.road.length = d.maxAttempts.toNat := by
        unfold Destination.road
        rw [List.length_cons, List.length_replicate]
        omega
      rw [List.flatMap_cons, List.length_append, List.map_cons, List.sum_cons, hroad, hrest]

/-! ## §2. The levels of a chain, by role. -/

section Levels

variable {main terminal : Level} {inner : List Level}

/-- The retry levels are those between the main and the terminal one. -/
theorem filter_retry (hmain : main.role = .main) (hinner : ∀ l ∈ inner, l.role = .retry)
    (hterminal : terminal.role.isTerminal = true) :
    (main :: inner ++ [terminal]).filter (fun l => l.role == .retry) = inner := by
  have hself : inner.filter (fun l => l.role == .retry) = inner := by
    rw [List.filter_eq_self]
    intro l hl
    rw [hinner l hl]
    rfl
  have hlast : (terminal.role == Role.retry) = false := by
    cases hrole : terminal.role with
    | main => rfl
    | retry =>
        rw [hrole] at hterminal
        exact Bool.noConfusion hterminal
    | deadLetter => rfl
    | noOps => rfl
  have hfirst : (main.role == Role.retry) = false := by rw [hmain]; rfl
  rw [List.cons_append, List.filter_cons, hfirst, List.filter_append, hself, List.filter_cons, hlast]
  exact List.append_nil inner

/-- Only the last level is terminal. -/
theorem filter_notTerminal (hmain : main.role = .main) (hinner : ∀ l ∈ inner, l.role = .retry)
    (hterminal : terminal.role.isTerminal = true) :
    (main :: inner ++ [terminal]).filter (fun l => !l.role.isTerminal) = main :: inner := by
  have hself : inner.filter (fun l => !l.role.isTerminal) = inner := by
    rw [List.filter_eq_self]
    intro l hl
    rw [hinner l hl]
    rfl
  have hfirst : (!main.role.isTerminal) = true := by rw [hmain]; rfl
  rw [List.cons_append, List.filter_cons, hfirst, List.filter_append, hself, List.filter_cons,
    hterminal]
  simp

end Levels

/-! ## §3. The road of a built chain. -/

/-- Where every level has one attempt, each attempt at a run is reached by a hop with its delay. -/
theorem road_of_single {run : RetryRun} {levels : List Level} (hsound : run.Sound levels)
    (hfits : run.overflows = false) (hone : ∀ l ∈ levels, l.maxAttempts = 1)
    (source name : String) :
    (run.toDestination source name).road
      = (List.replicate run.count run.level.delay).map some := by
  have hcount : run.attempts = run.count := (hsound.of_alike 1 hone).trans (Nat.mul_one _)
  have hpos := hsound.count_pos
  unfold Destination.road Destination.again
  rw [hsound.toDestination_maxAttempts source name hfits, run.toDestination_delay, run.toDestination_reusable, hcount,
    List.map_replicate]
  by_cases hmany : 1 < run.count
  · rw [decide_eq_true hmany, if_pos rfl, ← List.replicate_succ]
    congr 1
    omega
  · have hsingle : run.count = 1 := by omega
    rw [hsingle]
    rfl

/-- **The road of a built chain.**  It has an entry for every call but the first, and where every
level but the last has one attempt it is made of the delays of the retry levels. -/
structure Paved (source : String) (levels : List Level) (naming : Naming) (main : Destination)
    (retries : List Destination) (terminal : Destination) : Prop where
  shaped : Shaped source main retries terminal
  attempts : ∀ d ∈ main :: retries, 1 ≤ d.maxAttempts.toNat ∧ d.maxAttempts.toNat ≤ 2147483647
  length : (roadOf main retries).length + 1 = callsOf levels
  single : (∀ l ∈ levels, l.role.isTerminal = false → l.maxAttempts = 1) →
    roadOf main retries = (retryDelays levels).map some
  ends : ∃ level, levels.getLast? = some level
    ∧ terminal = .ofLevel source (source ++ terminalSuffix naming level) level

section Nodes

variable {source : String} {runs : List RetryRun} {levels : List Level} {suffixes : List String}
  (hsound : ∀ run ∈ runs, run.Sound levels) (hfits : ∀ run ∈ runs, run.overflows = false)
include hsound hfits

/-- The attempts of the retry nodes are those of the runs. -/
theorem map_maxAttempts_retryNodes (source : String) (hlength : suffixes.length = runs.length) :
    (retryNodes source runs suffixes).map (fun d => d.maxAttempts.toNat)
      = runs.map RetryRun.attempts :=
  map_retryNodes _ _ hlength fun run hrun name =>
    (hsound run hrun).toDestination_maxAttempts source name (hfits run hrun)

/-- Where every level has one attempt, the road over the retry nodes is made of their delays. -/
theorem flatMap_road_retryNodes {reuse : TopicReuse} (hgathered : Gathered reuse levels runs)
    (hone : ∀ l ∈ levels, l.maxAttempts = 1) (hlength : suffixes.length = runs.length) :
    (retryNodes source runs suffixes).flatMap Destination.road
      = (levels.map Level.delay).map some := by
  have hroads : (retryNodes source runs suffixes).map Destination.road
      = runs.map fun run => (List.replicate run.count run.level.delay).map some :=
    map_retryNodes _ _ hlength fun run hrun name =>
      road_of_single (hsound run hrun) (hfits run hrun) hone source name
  rw [← hgathered.delays, List.flatMap_def, hroads, List.map_flatMap, List.flatMap_def]

end Nodes

/-- **Whatever is built from attempts that fit paves the road of its levels.** -/
theorem paved_of_buildNodes {source : String} {levels : List Level} {naming : Naming}
    {built : List Destination} (h : buildNodes source levels naming = .ok built)
    (hfit : callsOf levels ≤ 2147483647) :
    ∃ main retries terminal, built = main :: retries ++ [terminal]
      ∧ Paved source levels naming main retries terminal := by
  obtain ⟨main, inner, terminal, suffixes, rfl, hpos, hmain, hinner, hterminal, hlength, rfl,
    hnames, hfits⟩ := of_buildNodes h
  have hcalls : callsOf (main :: inner ++ [terminal])
      = main.maxAttempts.toNat + attemptsOf inner := by
    unfold callsOf
    rw [filter_notTerminal hmain hinner hterminal, attemptsOf_cons]
  rw [hcalls] at hfit
  have hposInner : ∀ l ∈ inner, 1 ≤ l.maxAttempts.toNat := fun l hl =>
    hpos l (List.mem_append_left _ (List.mem_cons_of_mem main hl))
  have hposMain : 1 ≤ main.maxAttempts.toNat :=
    hpos main (List.mem_append_left _ List.mem_cons_self)
  have hgathered := gathered_retryRuns naming.reuse inner
  have hsound := hgathered.sound hposInner
  have hattempts := map_maxAttempts_retryNodes hsound hfits source hlength
  have hsum := hgathered.sum
  refine ⟨_, _, _, rfl, ?_, ?_, ?_, ?_, ?_⟩
  · exact shaped_of_nodes hmain (fun run hrun => hinner run.level (hgathered.level_mem run hrun))
      hterminal hnames
  · intro d hd
    rcases List.mem_cons.1 hd with rfl | hd
    · refine ⟨hposMain, ?_⟩
      show main.maxAttempts.toNat ≤ 2147483647
      omega
    · -- no node has more attempts than all of them together
      have hle := List.le_sum_of_mem (List.mem_map_of_mem (f := fun d => d.maxAttempts.toNat) hd)
      rw [hattempts, hsum] at hle
      exact ⟨maxAttempts_pos_of_mem_retryNodes hsound hfits hd, by omega⟩
  · unfold roadOf
    rw [hcalls, List.length_append, List.length_replicate,
      length_flatMap_road fun d hd => maxAttempts_pos_of_mem_retryNodes hsound hfits hd, hattempts, hsum]
    show main.maxAttempts.toNat - 1 + attemptsOf inner + 1 = _
    omega
  · intro hone
    have hmainOne : main.maxAttempts = 1 :=
      hone main (List.mem_append_left _ List.mem_cons_self) (by rw [hmain]; rfl)
    have hinnerOne : ∀ l ∈ inner, l.maxAttempts = 1 := fun l hl =>
      hone l (List.mem_append_left _ (List.mem_cons_of_mem main hl)) (by rw [hinner l hl]; rfl)
    unfold roadOf retryDelays
    rw [filter_retry hmain hinner hterminal,
      flatMap_road_retryNodes hsound hfits hgathered hinnerOne hlength]
    show List.replicate (main.maxAttempts.toNat - 1) _ ++ _ = _
    rw [hmainOne]
    rfl
  · exact ⟨terminal, List.getLast?_concat, rfl⟩

end Redelivery
