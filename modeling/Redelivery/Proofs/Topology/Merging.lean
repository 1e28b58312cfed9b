/-
  Redelivery.Proofs.Topology.Merging
  ──────────────────────────────────
  **The attempts of a shared node are those of its levels.**

  Under reuse there is one retry node for each longest stretch of levels of
  one delay, in order.  Its attempts are those of the stretch, and where 32
  bits do not hold them nothing is built:

      stretches = inner levels, split where the delay changes
      Σ stretch.maxAttempts < 2 ^ 32    node.maxAttempts = Σ stretch.maxAttempts
      2 ^ 32 ≤ Σ stretch.maxAttempts    the build breaks down
-/
import Mathlib.Data.List.SplitBy
import Redelivery.Proofs.Topology.Shape

namespace Redelivery

/-! ## §1. Longest stretches of one delay. -/

/-- Two levels of one delay. -/
def Level.sameDelay (a b : Level) : Bool := a.delay == b.delay

/-- The longest stretches of levels of one delay, in order. -/
def stretches (levels : List Level) : List (List Level) := levels.splitBy Level.sameDelay

variable {level first : Level} {levels rest stretch : List Level} {later : List (List Level)}

/-- The first stretch begins with the first level. -/
theorem head?_of_stretches (h : stretches levels = stretch :: later) :
    levels.head? = stretch.head? := by
  have hflatten : levels = stretch ++ later.flatten := by
    rw [← List.flatten_cons, ← h]
    exact (List.flatten_splitBy _ levels).symm
  have hmem : stretch ∈ stretches levels := by
    rw [h]
    exact List.mem_cons_self
  have hne : stretch ≠ [] := List.ne_nil_of_mem_splitBy hmem
  rw [hflatten, List.head?_append_of_ne_nil _ hne]

/-- A level of another delay than the next is a stretch of its own. -/
theorem stretches_cons_of_ne (hhead : rest.head? = some first) (hne : level.delay ≠ first.delay) :
    stretches (level :: rest) = [level] :: stretches rest := by
  obtain ⟨tail, rfl⟩ := List.head?_eq_some_iff.1 hhead
  refine List.splitBy_append_cons (l := [level]) tail fun x hx => ?_
  cases hx
  exact beq_false_of_ne hne

/-- A level of the delay of the next joins its stretch. -/
theorem stretches_cons_of_eq (hrest : stretches rest = (first :: stretch) :: later)
    (hsame : level.delay = first.delay) :
    stretches (level :: rest) = (level :: first :: stretch) :: later := by
  obtain ⟨hflatten, hnil, hchains, hbreaks⟩ := List.splitBy_eq_iff.1 hrest
  refine List.splitBy_eq_iff.2 ⟨?_, ?_, ?_, ?_⟩
  · rw [hflatten]
    rfl
  · intro hmem
    rcases List.mem_cons.1 hmem with heq | hlater
    · cases heq
    · exact hnil (List.mem_cons_of_mem _ hlater)
  · intro m hm
    rcases List.mem_cons.1 hm with rfl | hlater
    · exact .cons_cons (beq_iff_eq.2 hsame) (hchains _ List.mem_cons_self)
    · exact hchains m (List.mem_cons_of_mem _ hlater)
  · -- the stretch ends where it ended before
    cases later with
    | nil => exact .singleton _
    | cons next later =>
        rw [List.isChain_cons_cons] at hbreaks
        obtain ⟨⟨_, hnext, hbreak⟩, hlater⟩ := hbreaks
        refine .cons_cons ⟨List.cons_ne_nil _ _, hnext, ?_⟩ hlater
        rw [List.getLast_cons (List.cons_ne_nil _ _)]
        exact hbreak

/-! ## §2. The run of a stretch. -/

/-- The run stands for these levels, which have one delay, and has their attempts. -/
structure RetryRun.StandsFor (run : RetryRun) (stretch : List Level) : Prop where
  head : stretch.head? = some run.level
  count : run.count = stretch.length
  delays : ∀ l ∈ stretch, l.delay = run.level.delay
  attempts : run.attempts = attemptsOf stretch

theorem RetryRun.standsFor_ofLevel (level : Level) :
    (RetryRun.ofLevel level).StandsFor [level] where
  head := rfl
  count := rfl
  delays := fun l hl => by rw [List.mem_singleton.1 hl]; rfl
  attempts := rfl

/-- One level more. -/
theorem RetryRun.StandsFor.merge {run : RetryRun} (h : run.StandsFor stretch)
    (hsame : level.delay = run.level.delay) :
    RetryRun.StandsFor ⟨level, run.count + 1, level.maxAttempts.toNat + run.attempts⟩
      (level :: stretch) where
  head := rfl
  count := by
    show run.count + 1 = stretch.length + 1
    rw [h.count]
  delays := by
    intro l hl
    rcases List.mem_cons.1 hl with rfl | hl
    · rfl
    · exact (h.delays l hl).trans hsame.symm
  attempts := by
    show level.maxAttempts.toNat + run.attempts = _
    rw [h.attempts, attemptsOf_cons]

/-- **Under reuse there is one run for each longest stretch of one delay.** -/
theorem forall₂_retryRuns (levels : List Level) :
    List.Forall₂ RetryRun.StandsFor (retryRuns .single levels) (stretches levels) := by
  -- induction on the levels from the back, as runs are gathered
  induction levels with
  | nil => exact .nil
  | cons level rest ih =>
      rw [retryRuns]
      cases hruns : retryRuns .single rest with
      | nil =>
          rw [hruns, List.forall₂_nil_left_iff] at ih
          rw [List.splitBy_eq_nil.1 ih]
          exact .cons (RetryRun.standsFor_ofLevel level) .nil
      | cons run runs =>
          rw [hruns] at ih
          obtain ⟨stretch, later, hfirst, hlater, hrest⟩ := List.forall₂_cons_left_iff.1 ih
          have hhead : rest.head? = some run.level := (head?_of_stretches hrest).trans hfirst.head
          by_cases hsame : level.delay = run.level.delay
          · simp only [hsame, and_self, if_pos]
            obtain ⟨tail, rfl⟩ := List.head?_eq_some_iff.1 hfirst.head
            rw [stretches_cons_of_eq hrest hsame]
            exact .cons (hfirst.merge hsame) hlater
          · simp only [hsame, and_false, if_false]
            rw [stretches_cons_of_ne hhead hsame, hrest]
            exact .cons (RetryRun.standsFor_ofLevel level) (.cons hfirst hlater)

/-! ## §3. Attempts that do not fit. -/

/-- Levels that are to share a node have more attempts together than 32 bits hold. -/
def Crowded (reuse : TopicReuse) (levels : List Level) : Prop :=
  reuse = .single ∧ ∃ stretch ∈ stretches levels, 4294967296 ≤ attemptsOf stretch

theorem RetryRun.overflows_iff {run : RetryRun} :
    run.overflows = true ↔ 4294967296 ≤ run.attempts := by
  unfold overflows
  rw [decide_eq_true_eq]

/-- **Without reuse no run overflows**, since each has the attempts of one level. -/
theorem any_overflows_multiple (levels : List Level) :
    (retryRuns .multiple levels).any RetryRun.overflows = false := by
  rw [retryRuns_multiple, List.any_map, List.any_eq_false]
  intro level _ hoverflows
  have hmany := RetryRun.overflows_iff.1 hoverflows
  exact absurd level.maxAttempts.toNat_lt (Nat.not_lt.2 hmany)

/-- Under reuse the attempts of the runs are those of the stretches, one by one and in order. -/
theorem map_attempts_retryRuns (levels : List Level) :
    (retryRuns .single levels).map RetryRun.attempts = (stretches levels).map attemptsOf := by
  rw [← List.forall₂_eq_eq_eq, List.forall₂_map_left_iff, List.forall₂_map_right_iff]
  exact (forall₂_retryRuns levels).imp fun _ _ h => h.attempts

/-- **Some run overflows exactly where levels are crowded.** -/
theorem any_overflows_iff {reuse : TopicReuse} {levels : List Level} :
    (retryRuns reuse levels).any RetryRun.overflows = true ↔ Crowded reuse levels := by
  cases reuse with
  | multiple =>
      rw [any_overflows_multiple]
      exact ⟨nofun, fun h => nomatch h.1⟩
  | single =>
      calc (retryRuns .single levels).any RetryRun.overflows = true
          ↔ ∃ n ∈ (retryRuns .single levels).map RetryRun.attempts, 4294967296 ≤ n := by
            simp only [List.any_eq_true, RetryRun.overflows_iff, List.mem_map,
              exists_exists_and_eq_and]
        _ ↔ ∃ stretch ∈ stretches levels, 4294967296 ≤ attemptsOf stretch := by
            rw [map_attempts_retryRuns]
            simp only [List.mem_map, exists_exists_and_eq_and]
        _ ↔ Crowded .single levels := (and_iff_right rfl).symm

/-! ## §4. The node of a stretch. -/

/-- The node stands for these levels: it has their delay, it is shared if there are several, and it
has their attempts. -/
structure Destination.Merges (node : Destination) (stretch : List Level) : Prop where
  delays : ∀ l ∈ stretch, l.delay = node.delay
  reusable : node.reusable = decide (1 < stretch.length)
  attempts : node.maxAttempts.toNat = attemptsOf stretch

theorem RetryRun.StandsFor.merges {run : RetryRun} (h : run.StandsFor stretch)
    (hfits : run.overflows = false) (source name : String) :
    (run.toDestination source name).Merges stretch where
  delays := by
    rw [run.toDestination_delay]
    exact h.delays
  reusable := by
    rw [run.toDestination_reusable, h.count]
  attempts := by
    unfold toDestination
    split
    · rw [← h.attempts]
      exact UInt32.toNat_ofNat_of_lt' (run.overflows_eq_false_iff.1 hfits)
    · -- a stretch of a single level
      rename_i hsingle
      obtain ⟨tail, rfl⟩ := List.head?_eq_some_iff.1 h.head
      have hcount := h.count
      rw [List.length_cons] at hcount
      have htail : tail = [] := List.eq_nil_of_length_eq_zero (by omega)
      rw [htail]
      rfl

/-- What holds of the runs holds of their nodes. -/
theorem forall₂_retryNodes {α : Type} {R : RetryRun → α → Prop} {Q : Destination → α → Prop}
    {source : String} {runs : List RetryRun} {l : List α}
    (hRQ : ∀ run x name, R run x → Q (run.toDestination source name) x)
    (h : List.Forall₂ R runs l) : ∀ suffixes : List String, suffixes.length = runs.length →
    List.Forall₂ Q (retryNodes source runs suffixes) l := by
  induction h with
  | nil => exact fun suffixes _ => .nil
  | cons hfirst _ ih =>
      intro suffixes hlength
      cases suffixes with
      | nil => cases hlength
      | cons suffix suffixes =>
          exact .cons (hRQ _ _ _ hfirst) (ih suffixes (Nat.succ.inj hlength))

/-- **The nodes of runs that do not overflow stand for the stretches**, one by one and in order. -/
theorem merges_retryNodes {source : String} {levels : List Level} {suffixes : List String}
    (hfits : ∀ run ∈ retryRuns .single levels, run.overflows = false)
    (hlength : suffixes.length = (retryRuns .single levels).length) :
    List.Forall₂ Destination.Merges (retryNodes source (retryRuns .single levels) suffixes)
      (stretches levels) := by
  have hstands : List.Forall₂ (fun (run : RetryRun) stretch => run.StandsFor stretch
      ∧ run.overflows = false) (retryRuns .single levels) (stretches levels) := by
    have hruns := forall₂_retryRuns levels
    rw [List.forall₂_iff_zip] at hruns ⊢
    exact ⟨hruns.1, fun hmem => ⟨hruns.2 hmem, hfits _ (List.of_mem_zip hmem).1⟩⟩
  exact forall₂_retryNodes (fun run stretch name h => h.1.merges h.2 source name) hstands suffixes
    hlength

/-- Levels have as many attempts as there are levels, if each has one. -/
theorem length_le_attemptsOf {levels : List Level} (hpos : ∀ l ∈ levels, 1 ≤ l.maxAttempts.toNat) :
    levels.length ≤ attemptsOf levels := by
  have hlength : (levels.map fun l => l.maxAttempts.toNat).length ≤ attemptsOf levels :=
    List.length_le_sum_of_one_le _ fun n hn => by
      obtain ⟨l, hl, rfl⟩ := List.mem_map.1 hn
      exact hpos l hl
  rwa [List.length_map] at hlength

theorem mem_of_mem_stretches {levels : List Level} (hstretch : stretch ∈ stretches levels)
    {l : Level} (hl : l ∈ stretch) : l ∈ levels := by
  rw [← List.flatten_splitBy Level.sameDelay levels]
  exact List.mem_flatten.2 ⟨stretch, hstretch, hl⟩

/-- **A build breaks down exactly where the levels pass the check and are crowded.** -/
theorem buildNodes_eq_overflow_iff {source : String} {levels : List Level} {naming : Naming} :
    buildNodes source levels naming = .error .overflow
      ↔ checkLevels source levels = .ok () ∧ Crowded naming.reuse (innerLevels levels) := by
  cases hcheck : checkLevels source levels with
  | error fault =>
      unfold buildNodes
      simp [hcheck]
  | ok u =>
      obtain ⟨main, inner, terminal, rfl, _⟩ := of_checkLevels hcheck
      rw [buildNodes_of_check naming hcheck, innerLevels_eq, ← any_overflows_iff]
      split
      · simp_all
      · split <;> simp_all

/-- **Levels that pass the check and are not crowded** have a chain, or a name is used twice. -/
theorem buildNodes_of_not_crowded {source : String} {levels : List Level} {naming : Naming}
    (hcheck : checkLevels source levels = .ok ())
    (hfits : ¬Crowded naming.reuse (innerLevels levels)) :
    (∃ built, buildNodes source levels naming = .ok built)
      ∨ ∃ name, buildNodes source levels naming = .error (.reported (.nameUsedTwice name source)) := by
  obtain ⟨main, inner, terminal, rfl, _⟩ := of_checkLevels hcheck
  rw [innerLevels_eq, ← any_overflows_iff] at hfits
  rw [buildNodes_of_check naming hcheck, if_neg hfits]
  split
  · exact Or.inr ⟨_, rfl⟩
  · exact Or.inl ⟨_, rfl⟩

/-- **The shared nodes of a chain that is built**, one by one and in order. -/
theorem merges_of_buildNodes {source : String} {levels : List Level} {naming : Naming}
    {built : List Destination} (hsingle : naming.reuse = .single)
    (hbuilt : buildNodes source levels naming = .ok built) :
    ∃ main retries terminal, built = main :: retries ++ [terminal]
      ∧ List.Forall₂ Destination.Merges retries (stretches (innerLevels levels)) := by
  obtain ⟨main, inner, terminal, suffixes, rfl, _, _, _, _, hlength, rfl, _, hfits⟩ :=
    of_buildNodes hbuilt
  rw [innerLevels_eq]
  refine ⟨_, _, _, rfl, ?_⟩
  rw [hsingle] at hlength hfits ⊢
  exact merges_retryNodes hfits hlength

/-- **Sharing a topic adds up attempts exactly, or nothing is built.**  Under reuse, levels that pass
the check break the build down if and only if some longest stretch of levels of one delay has more
attempts together than 32 bits hold; no other outcome depends on attempts.  The retry nodes of a
chain that is built stand for these stretches, one by one and in order: each has the sum of the
attempts of its levels, and so an attempt for each level at least. -/
theorem shared_attempts_add_up_within_32_bits {source : String} {levels : List Level}
    {naming : Naming} (hsingle : naming.reuse = .single)
    (hcheck : checkLevels source levels = .ok ()) :
    (buildNodes source levels naming = .error .overflow ↔
      ∃ stretch ∈ stretches (innerLevels levels), 4294967296 ≤ attemptsOf stretch)
    ∧ ((∀ stretch ∈ stretches (innerLevels levels), attemptsOf stretch < 4294967296) →
        (∃ built, buildNodes source levels naming = .ok built)
          ∨ ∃ name, buildNodes source levels naming = .error (.reported (.nameUsedTwice name source)))
    ∧ ∀ built, buildNodes source levels naming = .ok built →
      ∃ main retries terminal, built = main :: retries ++ [terminal]
        ∧ List.Forall₂ (fun node stretch => node.Merges stretch
            ∧ stretch.length ≤ node.maxAttempts.toNat)
          retries (stretches (innerLevels levels)) := by
  refine ⟨?_, fun hfits => ?_, fun built hbuilt => ?_⟩
  · rw [buildNodes_eq_overflow_iff, hsingle]
    exact ⟨fun h => h.2.2, fun h => ⟨hcheck, rfl, h⟩⟩
  · refine buildNodes_of_not_crowded hcheck ?_
    rintro ⟨_, stretch, hstretch, hmany⟩
    exact absurd (hfits stretch hstretch) (Nat.not_lt.2 hmany)
  · obtain ⟨main, retries, terminal, hnodes, hmerges⟩ := merges_of_buildNodes hsingle hbuilt
    refine ⟨main, retries, terminal, hnodes, ?_⟩
    obtain ⟨_, inner, _, rfl, _, _, _, hpos⟩ := of_checkLevels hcheck
    rw [innerLevels_eq, List.forall₂_iff_zip] at hmerges ⊢
    refine ⟨hmerges.1, fun {node stretch} hmem => ⟨hmerges.2 hmem, ?_⟩⟩
    rw [(hmerges.2 hmem).attempts]
    refine length_le_attemptsOf fun l hl => hpos l ?_
    have hinner : l ∈ inner := mem_of_mem_stretches (List.of_mem_zip hmem).2 hl
    simp [hinner]

namespace Orders

/-- Two retry levels of one delay, with more attempts together than 32 bits hold. -/
def crowdedLevels : List Level :=
  [{ role := .main }, { role := .retry, delay := 100, maxAttempts := 4294967295 },
    { role := .retry, delay := 100, maxAttempts := 2 }, { role := .deadLetter }]

/-- Two retry levels of one delay, with as many attempts together as 32 bits hold. -/
def fullLevels : List Level :=
  [{ role := .main }, { role := .retry, delay := 100, maxAttempts := 4294967293 },
    { role := .retry, delay := 100, maxAttempts := 2 }, { role := .deadLetter }]

/-- The nodes of the levels that fit. -/
def full : List Destination :=
  (buildNodes "orders" fullLevels { reuse := .single }).toOption.getD []

end Orders

open Orders in
/-- One node takes 4294967295 attempts of two levels, and none takes two more. -/
theorem shared_attempts_add_up_within_32_bits_of_full :
    (∃ main node terminal, full = [main, node, terminal] ∧ node.reusable = true
      ∧ node.maxAttempts.toNat = 4294967295)
    ∧ buildNodes "orders" crowdedLevels { reuse := .single } = .error .overflow := by
  have hstretches : stretches (innerLevels fullLevels) = [innerLevels fullLevels] := by
    decide +kernel
  have hbuilt : buildNodes "orders" fullLevels { reuse := .single } = .ok full := by
    decide +kernel
  refine ⟨?_, ?_⟩
  · have hcheck : checkLevels "orders" fullLevels = .ok () := by decide +kernel
    obtain ⟨_, _, hnodes⟩ :=
      @shared_attempts_add_up_within_32_bits "orders" fullLevels { reuse := .single } rfl hcheck
    obtain ⟨main, retries, terminal, hfull, hmerges⟩ := hnodes full hbuilt
    rw [hstretches] at hmerges
    obtain ⟨node, others, ⟨hnode, _⟩, hothers, rfl⟩ := List.forall₂_cons_right_iff.1 hmerges
    rw [List.forall₂_nil_right_iff.1 hothers] at hfull
    exact ⟨main, node, terminal, hfull, hnode.reusable, hnode.attempts⟩
  · refine (shared_attempts_add_up_within_32_bits rfl (by decide +kernel)).1.2 ?_
    exact ⟨innerLevels crowdedLevels, by decide +kernel, by decide +kernel⟩

end Redelivery
