/-
  Redelivery.Proofs.Topology.Runs
  ───────────────────────────────
  **What gathering retry levels into runs keeps.**

  Runs stand for the levels that went into them: the attempts of all runs
  are those of all levels, and writing out the delay of each run as often as
  it has levels gives back the delays of the levels, whether or not
  neighbours share a node.

      Σ run.attempts = Σ level.maxAttempts
      runs.flatMap (replicate count delay) = levels.map delay
-/
import Mathlib.Algebra.Order.BigOperators.Group.List
import Mathlib.Algebra.Order.Ring.Nat
import Redelivery.Topology.Chain

namespace Redelivery

/-- The attempts of some levels together. -/
def attemptsOf (levels : List Level) : Nat := (levels.map fun l => l.maxAttempts.toNat).sum

theorem attemptsOf_cons (level : Level) (rest : List Level) :
    attemptsOf (level :: rest) = level.maxAttempts.toNat + attemptsOf rest := by
  unfold attemptsOf
  rw [List.map_cons, List.sum_cons]

/-! ## §1. One level joins the runs of those behind it. -/

/-- How levels are gathered into runs, from the last level on. -/
inductive Gathered (reuse : TopicReuse) : List Level → List RetryRun → Prop where
  | nil : Gathered reuse [] []
  /-- The level is a run of its own. -/
  | alone {level : Level} {rest : List Level} {runs : List RetryRun}
      (behind : Gathered reuse rest runs) :
      Gathered reuse (level :: rest) (.ofLevel level :: runs)
  /-- The level joins the first run, which has the same delay. -/
  | merged {level : Level} {rest : List Level} {run : RetryRun} {runs : List RetryRun}
      (behind : Gathered reuse rest (run :: runs)) (single : reuse = .single)
      (same : level.delay = run.level.delay) :
      Gathered reuse (level :: rest)
        (⟨level, run.count + 1, level.maxAttempts.toNat + run.attempts⟩ :: runs)

/-- The runs are gathered level by level, from the last one on. -/
theorem gathered_retryRuns (reuse : TopicReuse) (levels : List Level) :
    Gathered reuse levels (retryRuns reuse levels) := by
  induction levels with
  | nil => exact .nil
  | cons level rest ih =>
      rw [retryRuns]
      cases hrest : retryRuns reuse rest with
      | nil =>
          rw [hrest] at ih
          exact .alone ih
      | cons run runs =>
          rw [hrest] at ih
          by_cases hmerge : reuse = .single ∧ level.delay = run.level.delay
          · simp only [if_pos hmerge]
            exact .merged ih hmerge.1 hmerge.2
          · simp only [if_neg hmerge]
            exact .alone ih

/-- **Without reuse every level is a run of its own.** -/
theorem retryRuns_multiple (levels : List Level) :
    retryRuns .multiple levels = levels.map RetryRun.ofLevel := by
  induction levels with
  | nil => rfl
  | cons level rest ih =>
      rw [retryRuns, ih]
      cases rest with
      | nil => rfl
      | cons next rest => rfl

namespace Gathered

variable {reuse : TopicReuse} {levels : List Level} {runs : List RetryRun}

/-! ## §2. Attempts and delays. -/

/-- **Runs have the attempts of their levels.** -/
theorem sum (h : Gathered reuse levels runs) :
    (runs.map RetryRun.attempts).sum = attemptsOf levels := by
  induction h with
  | nil => rfl
  | alone behind ih =>
      rw [attemptsOf_cons, List.map_cons, List.sum_cons, ih]
      rfl
  | @merged level rest run runs behind single same ih =>
      rw [attemptsOf_cons, ← ih, List.map_cons, List.map_cons, List.sum_cons, List.sum_cons]
      exact Nat.add_assoc _ _ _

/-- **Each run has the delay of all its levels.** -/
theorem delays (h : Gathered reuse levels runs) :
    runs.flatMap (fun run => List.replicate run.count run.level.delay)
      = levels.map Level.delay := by
  induction h with
  | nil => rfl
  | alone behind ih =>
      rw [List.map_cons, ← ih, List.flatMap_cons]
      rfl
  | merged behind single same ih =>
      rw [List.map_cons, ← ih, List.flatMap_cons, List.flatMap_cons, ← same, List.replicate_succ]
      rfl

/-- The first level of a run is one of those gathered. -/
theorem level_mem (h : Gathered reuse levels runs) : ∀ run ∈ runs, run.level ∈ levels := by
  induction h with
  | nil =>
      intro run hrun
      exact absurd hrun List.not_mem_nil
  | @alone level rest runs behind ih =>
      intro run hrun
      rcases List.mem_cons.1 hrun with rfl | hrun
      · exact List.mem_cons_self
      · exact List.mem_cons_of_mem level (ih run hrun)
  | @merged level rest first runs behind single same ih =>
      intro run hrun
      rcases List.mem_cons.1 hrun with rfl | hrun
      · exact List.mem_cons_self
      · exact List.mem_cons_of_mem level (ih run (List.mem_cons_of_mem first hrun))

end Gathered

/-! ## §3. Single runs. -/

/-- A run has a level at least; one of a single level has its attempts.  Where all levels have the
same number of attempts, a run has that number for each of its levels. -/
structure RetryRun.Sound (levels : List Level) (run : RetryRun) : Prop where
  count_pos : 1 ≤ run.count
  attempts_pos : 1 ≤ run.attempts
  of_count : ¬1 < run.count → run.attempts = run.level.maxAttempts.toNat
  of_alike : ∀ n, (∀ l ∈ levels, l.maxAttempts = n) → run.attempts = run.count * n.toNat

namespace RetryRun.Sound

variable {levels : List Level} {run : RetryRun}

theorem cons (level : Level) (hsound : run.Sound levels) : run.Sound (level :: levels) where
  count_pos := hsound.count_pos
  attempts_pos := hsound.attempts_pos
  of_count := hsound.of_count
  of_alike := fun n hn => hsound.of_alike n fun l hl => hn l (List.mem_cons_of_mem level hl)

/-- A level alone is sound. -/
theorem ofLevel {level : Level} (hpos : 1 ≤ level.maxAttempts.toNat) (rest : List Level) :
    (RetryRun.ofLevel level).Sound (level :: rest) where
  count_pos := Nat.le_refl 1
  attempts_pos := hpos
  of_count := fun _ => rfl
  of_alike := by
    intro n hn
    show level.maxAttempts.toNat = 1 * n.toNat
    rw [hn level List.mem_cons_self, Nat.one_mul]

/-- A level merged into a sound run leaves it sound. -/
theorem merge (hsound : run.Sound levels) (level : Level) :
    RetryRun.Sound (level :: levels)
      ⟨level, run.count + 1, level.maxAttempts.toNat + run.attempts⟩ where
  count_pos := Nat.le_add_left 1 run.count
  attempts_pos := Nat.le_trans hsound.attempts_pos (Nat.le_add_left _ _)
  of_count := by
    intro hnot
    have hcount := hsound.count_pos
    exact absurd (show 1 < run.count + 1 by omega) hnot
  of_alike := by
    intro n hn
    have hrun := hsound.of_alike n fun l hl => hn l (List.mem_cons_of_mem level hl)
    show level.maxAttempts.toNat + run.attempts = (run.count + 1) * n.toNat
    rw [hrun, hn level List.mem_cons_self, Nat.succ_mul, Nat.add_comm]

end RetryRun.Sound

/-- **All runs are sound.** -/
theorem Gathered.sound {reuse : TopicReuse} {levels : List Level} {runs : List RetryRun}
    (h : Gathered reuse levels runs) (hpos : ∀ l ∈ levels, 1 ≤ l.maxAttempts.toNat) :
    ∀ run ∈ runs, run.Sound levels := by
  induction h with
  | nil =>
      intro run hrun
      exact absurd hrun List.not_mem_nil
  | @alone level rest runs behind ih =>
      have hrest := ih fun l hl => hpos l (List.mem_cons_of_mem level hl)
      intro run hrun
      rcases List.mem_cons.1 hrun with rfl | hrun
      · exact .ofLevel (hpos level List.mem_cons_self) rest
      · exact (hrest run hrun).cons level
  | @merged level rest first runs behind single same ih =>
      have hrest := ih fun l hl => hpos l (List.mem_cons_of_mem level hl)
      intro run hrun
      rcases List.mem_cons.1 hrun with rfl | hrun
      · exact (hrest first List.mem_cons_self).merge level
      · exact (hrest run (List.mem_cons_of_mem first hrun)).cons level

end Redelivery
