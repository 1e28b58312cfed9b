/-
  Redelivery.Proofs.Topology.Delays
  ─────────────────────────────────
  **The delays of a chain grow.**

  Levels that pass the check have delays that never decrease and fit a due
  time.  A run has the delay of its first level, so the delays of the runs
  never decrease either.  Where neighbours of one delay share a node, no two
  neighbouring runs have one delay, and the delays grow strictly:

      delays ≤ delays ≤ …        the levels, and the runs of any reuse
      delays < delays < …        the runs under reuse
-/
import Redelivery.Proofs.Topology.Shape

namespace Redelivery

/-! ## §1. Levels that pass the check. -/

theorem decreases_eq_false_iff {delays : List UInt64} :
    decreases delays = false ↔ delays.IsChain (· ≤ ·) := by
  induction delays with
  | nil => simp [decreases]
  | cons a rest ih =>
      cases rest with
      | nil => simp [decreases]
      | cons b rest => simp [decreases, ih]

theorem isChain_le_iff_pairwise {delays : List UInt64} :
    delays.IsChain (· ≤ ·) ↔ delays.Pairwise (· ≤ ·) :=
  haveI : IsTrans UInt64 (· ≤ ·) := ⟨fun _ _ _ => UInt64.le_trans⟩
  List.isChain_iff_pairwise

theorem isChain_lt_iff_pairwise {delays : List UInt64} :
    delays.IsChain (· < ·) ↔ delays.Pairwise (· < ·) :=
  haveI : IsTrans UInt64 (· < ·) := ⟨fun _ _ _ => UInt64.lt_trans⟩
  List.isChain_iff_pairwise

/-- Delays that never decrease grow strictly if no two neighbours are equal. -/
theorem isChain_lt {delays : List UInt64} (hle : delays.IsChain (· ≤ ·))
    (hne : delays.IsChain (· ≠ ·)) : delays.IsChain (· < ·) := by
  induction hle with
  | nil => exact .nil
  | singleton a => exact .singleton a
  | cons_cons hab _ ih =>
      rw [List.isChain_cons_cons] at hne
      exact .cons_cons (UInt64.lt_of_le_of_ne hab hne.1) (ih hne.2)

/-- **Levels that pass the check** have delays that never decrease and fit a due time. -/
theorem delays_of_checkLevels {source : String} {levels : List Level}
    (h : checkLevels source levels = .ok ()) :
    ((innerLevels levels).map Level.delay).Pairwise (· ≤ ·)
      ∧ ∀ l ∈ levels, l.delay ≤ longestDelay := by
  unfold checkLevels at h
  simp only [ite_error_eq_ok_iff] at h
  obtain ⟨_, _, _, _, _, _, hdecreases, hlongest, _⟩ := h
  rw [Bool.not_eq_true, decreases_eq_false_iff, isChain_le_iff_pairwise] at hdecreases
  refine ⟨hdecreases, fun l hl => ?_⟩
  rw [List.any_eq_true] at hlongest
  have hnot : ¬decide (longestDelay < l.delay) = true := fun hlt => hlongest ⟨l, hl, hlt⟩
  rw [decide_eq_true_eq, UInt64.not_lt] at hnot
  exact hnot

/-- **What the check asks of levels**: a source topic, one level at each end and retries between
them, attempts everywhere, and delays that fit and never decrease. -/
theorem checkLevels_eq_ok_iff {source : String} {main terminal : Level} {inner : List Level} :
    checkLevels source (main :: inner ++ [terminal]) = .ok () ↔
      source ≠ "" ∧ main.role = .main ∧ terminal.role.isTerminal = true
        ∧ (∀ l ∈ inner, l.role = .retry)
        ∧ (∀ l ∈ main :: inner ++ [terminal], 1 ≤ l.maxAttempts)
        ∧ (inner.map Level.delay).Pairwise (· ≤ ·)
        ∧ ∀ l ∈ main :: inner ++ [terminal], l.delay ≤ longestDelay := by
  unfold checkLevels
  simp only [ite_error_eq_ok_iff, innerLevels_eq, List.getLast?_concat, ← isChain_le_iff_pairwise,
    ← decreases_eq_false_iff, Bool.not_eq_true, List.any_eq_false, decide_eq_true_eq,
    UInt32.not_lt, UInt64.not_lt]
  simp

/-! ## §2. Runs. -/

/-- The first levels of the runs are some of the levels, in order. -/
theorem Gathered.sublist {reuse : TopicReuse} {levels : List Level} {runs : List RetryRun}
    (h : Gathered reuse levels runs) : (runs.map RetryRun.level).Sublist levels := by
  induction h with
  | nil => exact List.Sublist.slnil
  | alone behind ih => exact ih.cons_cons _
  | @merged level rest run runs behind single same ih =>
      -- the level stands in for the one that opened the run
      exact ((List.sublist_cons_self run.level (runs.map RetryRun.level)).trans ih).cons_cons level

/-- No two neighbouring runs have one delay, where neighbours of one delay share a node. -/
theorem isChain_ne_retryRuns (levels : List Level) :
    ((retryRuns .single levels).map fun run => run.level.delay).IsChain (· ≠ ·) := by
  induction levels with
  | nil => exact .nil
  | cons level rest ih =>
      rw [retryRuns]
      cases hrest : retryRuns .single rest with
      | nil => exact .singleton _
      | cons run runs =>
          rw [hrest] at ih
          by_cases hsame : level.delay = run.level.delay
          · simp only [hsame, and_self, if_pos]
            -- the merged run has the delay of the one that was joined
            rw [List.map_cons, ← hsame] at ih
            exact ih
          · simp only [hsame, and_false, if_false]
            exact .cons_cons hsame ih

theorem delays_of_retryRuns {reuse : TopicReuse} {levels : List Level}
    (h : (levels.map Level.delay).Pairwise (· ≤ ·)) :
    ((retryRuns reuse levels).map fun run => run.level.delay).Pairwise (· ≤ ·) := by
  have hsub := (gathered_retryRuns reuse levels).sublist.map Level.delay
  rw [List.map_map] at hsub
  exact h.sublist hsub

/-- **Under reuse the delays of the runs grow strictly.** -/
theorem strict_of_retryRuns {levels : List Level}
    (h : (levels.map Level.delay).Pairwise (· ≤ ·)) :
    ((retryRuns .single levels).map fun run => run.level.delay).Pairwise (· < ·) := by
  have hle : ((retryRuns .single levels).map fun run => run.level.delay).IsChain (· ≤ ·) :=
    isChain_le_iff_pairwise.2 (delays_of_retryRuns h)
  exact isChain_lt_iff_pairwise.1 (isChain_lt hle (isChain_ne_retryRuns levels))

/-- Where the delays of runs grow strictly, each is written out for one of them only. -/
theorem count_delay_of_strict {runs : List RetryRun}
    (hstrict : (runs.map fun run => run.level.delay).Pairwise (· < ·)) {run : RetryRun}
    (hrun : run ∈ runs) :
    (runs.flatMap fun run => List.replicate run.count run.level.delay).count run.level.delay
      = run.count := by
  have hnone : ∀ others : List RetryRun, (∀ r ∈ others, r.level.delay ≠ run.level.delay) →
      (others.flatMap fun run => List.replicate run.count run.level.delay).count run.level.delay
        = 0 := by
    intro others hothers
    refine List.count_eq_zero.2 fun hmem => ?_
    obtain ⟨r, hr, hdelay⟩ := List.mem_flatMap.1 hmem
    exact hothers r hr (List.eq_of_mem_replicate hdelay).symm
  obtain ⟨before, behind, rfl⟩ := List.append_of_mem hrun
  rw [List.map_append, List.map_cons, List.pairwise_append, List.pairwise_cons] at hstrict
  obtain ⟨_, ⟨hbehind, _⟩, hbefore⟩ := hstrict
  have hless : ∀ r ∈ before, r.level.delay ≠ run.level.delay := fun r hr =>
    UInt64.ne_of_lt (hbefore _ (List.mem_map.2 ⟨r, hr, rfl⟩) _ List.mem_cons_self)
  have hmore : ∀ r ∈ behind, r.level.delay ≠ run.level.delay := fun r hr =>
    (UInt64.ne_of_lt (hbehind _ (List.mem_map.2 ⟨r, hr, rfl⟩))).symm
  rw [List.flatMap_append, List.flatMap_cons, List.count_append, List.count_append,
    List.count_replicate_self, hnone before hless, hnone behind hmore, Nat.zero_add, Nat.add_zero]

end Redelivery
