/-
  Redelivery.Proofs.Topology.Encoding
  ───────────────────────────────────
  **Retry nodes are the run-length encoding of the retry levels.**

  Without reuse every retry level has a node of its own.  Under reuse there
  is one node for each run of levels of one delay, and a run ends where the
  delay changes and only there.  So no level is lost, and none joins a node of
  another delay:

      multiple   retries = levels, one by one
      single     flatMap (replicate run.length node.delay) = levels.map delay

  The main node and the terminal node are those of their levels.
-/
import Redelivery.Proofs.Topology.Delays
import Redelivery.Proofs.Topology.Merging

namespace Redelivery

/-! ## §1. Runs of one delay. -/

/-- The levels split into runs, which end where the delay changes and only there. -/
structure SplitByDelay (levels : List Level) (runs : List (List Level)) : Prop where
  flatten : runs.flatten = levels
  nonempty : [] ∉ runs
  alike : ∀ run ∈ runs, ∀ l ∈ run, ∀ l' ∈ run, l.delay = l'.delay
  maximal : runs.IsChain fun run next => ∀ l ∈ run, ∀ l' ∈ next, l.delay ≠ l'.delay

section StandsFor

variable {runs : List RetryRun} {parts : List (List Level)}
  (h : List.Forall₂ RetryRun.StandsFor runs parts)
include h

theorem exists_standsFor {part : List Level} (hpart : part ∈ parts) :
    ∃ run : RetryRun, run.StandsFor part := by
  induction h with
  | nil => cases hpart
  | cons hfirst _ ih =>
      rcases List.mem_cons.1 hpart with rfl | hlater
      · exact ⟨_, hfirst⟩
      · exact ih hlater

/-- Neighbouring stretches have different delays, as the runs that stand for them have. -/
theorem isChain_of_standsFor
    (hruns : (runs.map fun run => run.level.delay).IsChain (· ≠ ·)) :
    parts.IsChain fun part next => ∀ l ∈ part, ∀ l' ∈ next, l.delay ≠ l'.delay := by
  induction h with
  | nil => exact .nil
  | cons hfirst hrest ih =>
      cases hrest with
      | nil => exact .singleton _
      | cons hnext hlater =>
          rw [List.map_cons, List.map_cons, List.isChain_cons_cons] at hruns
          refine .cons_cons (fun l hl l' hl' => ?_) (ih hruns.2)
          rw [hfirst.delays l hl, hnext.delays l' hl']
          exact hruns.1

end StandsFor

/-- **The longest stretches of one delay are such runs.** -/
theorem splitByDelay_stretches (levels : List Level) : SplitByDelay levels (stretches levels) where
  flatten := List.flatten_splitBy _ levels
  nonempty := fun hmem => List.ne_nil_of_mem_splitBy hmem rfl
  alike := by
    intro part hpart l hl l' hl'
    obtain ⟨run, hstands⟩ := exists_standsFor (forall₂_retryRuns levels) hpart
    rw [hstands.delays l hl, hstands.delays l' hl']
  maximal := isChain_of_standsFor (forall₂_retryRuns levels) (isChain_ne_retryRuns levels)

/-- Delays that are written out as often as their runs have levels are those of the levels. -/
theorem flatMap_replicate_delay {nodes : List Destination} {runs : List (List Level)}
    (h : List.Forall₂ (fun node run => ∀ l ∈ run, l.delay = node.delay) nodes runs) :
    (nodes.zip runs).flatMap (fun p => List.replicate p.2.length p.1.delay)
      = runs.flatten.map Level.delay := by
  induction h with
  | nil => rfl
  | @cons node run _ _ hdelays _ ih =>
      have hrun : run.map Level.delay = List.replicate run.length node.delay := by
        rw [List.map_eq_replicate_iff]
        exact hdelays
      rw [List.zip_cons_cons, List.flatMap_cons, List.flatten_cons, List.map_append, ih, hrun]

/-! ## §2. Levels that keep nodes of their own. -/

/-- The node is that of the level: it has its part, its delay and its attempts, and is not shared. -/
structure Destination.Keeps (node : Destination) (level : Level) : Prop where
  role : node.role = level.role
  delay : node.delay = level.delay
  attempts : node.maxAttempts = level.maxAttempts
  plain : node.reusable = false

theorem Destination.keeps_ofLevel (source name : String) (level : Level) :
    (Destination.ofLevel source name level).Keeps level :=
  ⟨rfl, rfl, rfl, rfl⟩

theorem forall₂_ofLevel (levels : List Level) :
    List.Forall₂ (fun run level => run = RetryRun.ofLevel level) (levels.map RetryRun.ofLevel)
      levels := by
  rw [List.forall₂_map_left_iff, List.forall₂_same]
  exact fun _ _ => rfl

/-! ## §3. Every chain that is built. -/

/-- **The retry nodes of a chain are the run-length encoding of its retry levels.**  Without reuse
they are the nodes of the levels, one by one and in order, and none is shared.  Under reuse there is
one for each run of levels of one delay, which ends only where the delay changes: neighbours have
different delays, each delay written out for every level of its run gives back the delays of the
levels, and a node is shared if and only if its run has two levels at least.  The main and the
terminal node are those of the first and the last level. -/
theorem retry_nodes_encode_levels {source : String} {levels : List Level} {naming : Naming}
    {built : List Destination} (hbuilt : buildNodes source levels naming = .ok built) :
    ∃ first last main retries terminal, levels = first :: innerLevels levels ++ [last]
      ∧ built = main :: retries ++ [terminal]
      ∧ main.role = .main ∧ main.Keeps first
      ∧ terminal.role.isTerminal = true ∧ terminal.Keeps last
      ∧ (∀ d ∈ retries, d.role = .retry)
      ∧ (naming.reuse = .multiple → List.Forall₂ Destination.Keeps retries (innerLevels levels))
      ∧ (naming.reuse = .single → ∃ runs, SplitByDelay (innerLevels levels) runs
          ∧ List.Forall₂ (fun node run => (∀ l ∈ run, l.delay = node.delay)
              ∧ (node.reusable = true ↔ 2 ≤ run.length)) retries runs
          ∧ (retries.map Destination.delay).IsChain (· ≠ ·)
          ∧ (retries.zip runs).flatMap (fun p => List.replicate p.2.length p.1.delay)
            = (innerLevels levels).map Level.delay) := by
  obtain ⟨first, inner, last, suffixes, rfl, _, hfirst, hinner, hlast, hlength, rfl, _, hfits⟩ :=
    of_buildNodes hbuilt
  rw [innerLevels_eq]
  refine ⟨first, last, _, _, _, rfl, rfl, hfirst, Destination.keeps_ofLevel _ _ _, hlast,
    Destination.keeps_ofLevel _ _ _, ?_, fun hmultiple => ?_, fun hsingle => ?_⟩
  · intro d hd
    obtain ⟨run, hrun, name, rfl⟩ := mem_retryNodes hd
    rw [run.toDestination_role source name]
    exact hinner _ ((gathered_retryRuns naming.reuse inner).level_mem run hrun)
  · rw [hmultiple, retryRuns_multiple] at hlength ⊢
    refine forall₂_retryNodes ?_ (forall₂_ofLevel inner) suffixes hlength
    rintro run level name rfl
    exact Destination.keeps_ofLevel source name level
  · rw [hsingle] at hlength hfits ⊢
    have hmerges : List.Forall₂ Destination.Merges
        (retryNodes source (retryRuns .single inner) suffixes) (stretches inner) :=
      merges_retryNodes hfits hlength
    refine ⟨stretches inner, splitByDelay_stretches inner, ?_, ?_, ?_⟩
    · refine hmerges.imp fun node run h => ⟨h.delays, ?_⟩
      rw [h.reusable, decide_eq_true_eq]
      exact Iff.rfl
    · rw [map_retryNodes Destination.delay (fun run => run.level.delay) hlength
        fun run _ name => run.toDestination_delay source name]
      exact isChain_ne_retryRuns inner
    · rw [flatMap_replicate_delay (hmerges.imp fun node run h => h.delays),
        (splitByDelay_stretches inner).flatten]

namespace Orders

/-- Three retry levels, the first two of one delay. -/
def stepwiseLevels : List Level := Level.forChain [10, 10, 20] 1 true true

/-- The nodes of these levels, where levels of one delay share a node. -/
def stepwise : List Destination :=
  (buildNodes "orders" stepwiseLevels { reuse := .single }).toOption.getD []

end Orders

open Orders in
/-- Levels of 10, 10 and 20 milliseconds have two retry nodes. -/
theorem retry_nodes_encode_levels_of_stepwise :
    ∃ main retries terminal, stepwise = main :: retries ++ [terminal]
      ∧ retries.map Destination.delay = [10, 20] ∧ retries.map Destination.reusable = [true, false]
      ∧ (retries.map Destination.delay).IsChain (· ≠ ·) := by
  have hbuilt : buildNodes "orders" stepwiseLevels { reuse := .single } = .ok stepwise := by
    decide +kernel
  obtain ⟨_, _, main, retries, terminal, _, hnodes, _, _, _, _, _, _, hsingle⟩ :=
    retry_nodes_encode_levels hbuilt
  obtain ⟨_, _, _, hchain, _⟩ := hsingle rfl
  refine ⟨main, retries, terminal, hnodes, ?_, ?_, hchain⟩
  · have hdelays : (stepwise.map Destination.delay) = 0 :: [10, 20] ++ [0] := by decide +kernel
    rw [hnodes, List.map_append, List.map_cons] at hdelays
    exact (List.append_inj' (List.cons.inj hdelays).2 rfl).1
  · have hshared : (stepwise.map Destination.reusable) = false :: [true, false] ++ [false] := by
      decide +kernel
    rw [hnodes, List.map_append, List.map_cons] at hshared
    exact (List.append_inj' (List.cons.inj hshared).2 rfl).1

end Redelivery
