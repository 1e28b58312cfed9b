/-
  Redelivery.Proofs.Wiring.Building
  ─────────────────────────────────
  **A valid configuration builds.**

  What is checked of a configuration implies what is checked of the levels of
  its chains: there are attempts everywhere, the delays fit a due time, and
  drawn delays are sorted.  So only five things are left to go wrong:

      a topic without a name          a topic that is listed twice
      listed delays that decrease     two nodes of a chain with one name
      a shared node with more attempts than 32 bits hold

  The first four are reported, and the last breaks the pass down.
  Otherwise each topic gets its chain, all of them with the same delays.
-/
import Redelivery.Proofs.Topology.Suffixes

namespace Redelivery

/-! ## §1. Delays. -/

/-- Every number between the bounds is drawn for some word. -/
theorem Draws.between_sub {low high n : UInt64} (hlow : low ≤ n) (hhigh : n ≤ high) :
    between low high (n - low) = n := by
  have hle : low.toNat ≤ n.toNat := UInt64.le_iff_toNat_le.1 hlow
  have hbound : n.toNat ≤ high.toNat := UInt64.le_iff_toNat_le.1 hhigh
  have hmod : (n.toNat - low.toNat) % (high.toNat - low.toNat + 1) = n.toNat - low.toNat :=
    Nat.mod_eq_of_lt (by omega)
  unfold between
  rw [UInt64.toNat_sub_of_le n low hlow, hmod, Nat.add_sub_cancel' hle, UInt64.ofNat_toNat]

namespace Backoff

/-- Delays in whole numbers, and a list only if its attempts can be counted. -/
def IsExact : Backoff → Prop
  | .fixed _ | .uniformRandom _ _ => True
  | .exponential _ _ _ | .exponentialRandom _ _ _ => False
  | .explicit listed => listed.length < 4294967295

/-- The delays of some levels: all the same, drawn between the bounds and sorted, or those listed. -/
inductive Yields : Backoff → Nat → List UInt64 → Prop where
  | fixed (delay : UInt64) (levels : Nat) :
      Yields (.fixed delay) levels (List.replicate levels delay)
  | uniformRandom {min max : UInt64} {drawn : List UInt64} {levels : Nat}
      (length : drawn.length = levels) (within : ∀ d ∈ drawn, min ≤ d ∧ d ≤ max) :
      Yields (.uniformRandom min max) levels drawn.mergeSort
  | explicit {listed : List UInt64} {levels : Nat} (length : listed.length = levels) :
      Yields (.explicit listed) levels listed

variable {b : Backoff} {levels : Nat} {delays : List UInt64}

theorem checkDelay_eq_ok_iff {delay : UInt64} :
    checkDelay delay = .ok () ↔ delay ≤ longestDelay := by
  unfold checkDelay
  rw [ite_error_eq_ok_iff, UInt64.not_lt, eq_self, and_true]

theorem validate_uniformRandom_eq_ok_iff {min max : UInt64} :
    (uniformRandom min max).validate = .ok () ↔ min ≤ max ∧ max ≤ longestDelay := by
  show (if max < min then _ else checkDelay max) = .ok () ↔ _
  rw [ite_error_eq_ok_iff, UInt64.not_lt, checkDelay_eq_ok_iff]

theorem validate_explicit_eq_ok_iff :
    (explicit delays).validate = .ok () ↔ ∀ d ∈ delays, d ≤ longestDelay := by
  show delays.forM checkDelay = .ok () ↔ _
  induction delays with
  | nil => simp [pure, Except.pure]
  | cons d rest ih =>
      rw [List.forM_eq_forM, List.forM_cons, List.forall_mem_cons, ← checkDelay_eq_ok_iff, ← ih]
      cases checkDelay d <;> simp [bind, Except.bind]

/-- What is drawn between the bounds is drawn for some words. -/
theorem exists_draws {min max : UInt64} {drawn : List UInt64}
    (within : ∀ d ∈ drawn, min ≤ d ∧ d ≤ max) :
    ∃ draws : Draws,
      ((List.range drawn.length).map draws).map (Draws.between min max) = drawn := by
  refine ⟨fun i => drawn.getD i 0 - min, List.ext_getElem (by simp) fun i _ hi => ?_⟩
  obtain ⟨hmin, hmax⟩ := within drawn[i] (List.getElem_mem hi)
  simpa [hi] using Draws.between_sub hmin hmax

/-- **The delays that the draws can give.** -/
theorem yields_iff (valid : b.validate = .ok ()) (hexact : b.IsExact)
    (hlevels : ∀ listed, b = .explicit listed → listed.length = levels) :
    b.Yields levels delays ↔ ∃ draws, b.delays levels draws = delays := by
  constructor
  · rintro (⟨delay, levels⟩ | ⟨rfl, within⟩ | ⟨_⟩)
    · exact ⟨fun _ => 0, rfl⟩
    · obtain ⟨draws, hdrawn⟩ := exists_draws within
      refine ⟨draws, ?_⟩
      simp only [Backoff.delays, hdrawn]
    · exact ⟨fun _ => 0, rfl⟩
  · rintro ⟨draws, rfl⟩
    cases b with
    | fixed delay => exact .fixed delay levels
    | uniformRandom min max =>
        have hle : min ≤ max := (validate_uniformRandom_eq_ok_iff.1 valid).1
        refine .uniformRandom (by simp) fun d hd => ?_
        obtain ⟨word, _, rfl⟩ := List.mem_map.1 hd
        exact Draws.toNat_between word hle
    | exponential initial multiplier max => exact hexact.elim
    | exponentialRandom initial multiplier max => exact hexact.elim
    | explicit listed => exact .explicit (hlevels listed rfl)

namespace Yields

theorem length (h : b.Yields levels delays) : delays.length = levels := by
  cases h with
  | fixed delay => simp
  | uniformRandom hlength _ => rw [List.length_mergeSort, hlength]
  | explicit hlength => exact hlength

/-- Drawn delays are between the bounds. -/
theorem within {min max : UInt64} (h : (Backoff.uniformRandom min max).Yields levels delays) :
    ∀ d ∈ delays, min ≤ d ∧ d ≤ max := by
  cases h with
  | uniformRandom _ hwithin => exact fun d hd => hwithin d (List.mem_mergeSort.1 hd)

/-- **The delays of a valid backoff fit a due time.** -/
theorem le_longestDelay (h : b.Yields levels delays) (valid : b.validate = .ok ()) :
    ∀ d ∈ delays, d ≤ longestDelay := by
  cases h with
  | fixed delay =>
      intro d hd
      rw [List.eq_of_mem_replicate hd]
      exact checkDelay_eq_ok_iff.1 valid
  | @uniformRandom min max drawn _ _ hwithin =>
      intro d hd
      have hmax : max ≤ longestDelay := (validate_uniformRandom_eq_ok_iff.1 valid).2
      exact UInt64.le_trans (hwithin d (List.mem_mergeSort.1 hd)).2 hmax
  | explicit _ => exact validate_explicit_eq_ok_iff.1 valid

/-- **Only listed delays can decrease.** -/
theorem sorted_or_explicit (h : b.Yields levels delays) :
    delays.Pairwise (· ≤ ·) ∨ b = .explicit delays := by
  cases h with
  | fixed delay => exact .inl (List.pairwise_replicate.2 (.inr (UInt64.le_refl delay)))
  | @uniformRandom min max drawn =>
      left
      have hsorted : drawn.mergeSort.Pairwise fun a b => decide (a ≤ b) = true :=
        List.pairwise_mergeSort (fun a b c => by simpa using UInt64.le_trans)
          (fun a b => by simpa using UInt64.le_total a b) drawn
      simpa using hsorted
  | explicit _ => exact .inr rfl

end Yields

end Backoff

/-- Some delay is less than the one before it. -/
def Descends (delays : List UInt64) : Prop :=
  ∃ i, ∃ _ : i + 1 < delays.length, delays[i + 1] < delays[i]

theorem not_descends_iff {delays : List UInt64} :
    ¬Descends delays ↔ delays.Pairwise (· ≤ ·) := by
  rw [← isChain_le_iff_pairwise, List.isChain_iff_getElem]
  simp [Descends]

/-! ## §2. Chains. -/

namespace Configuration

variable (c : Configuration) (delays : List UInt64)

/-- The retry levels of every chain. -/
def retryLevels : List Level := delays.map fun d => ⟨.retry, d, c.blocking.attempts, c.retryDeadLetters⟩

/-- The chain of a topic, without checks. -/
def chainOf (topic : String) : Chain where
  source := topic
  destinations := nodes topic ⟨.main, 0, c.blocking.attempts, c.retryDeadLetters⟩
    (retryRuns c.reuse (c.retryLevels delays))
    ⟨if c.deadLetters then .deadLetter else .noOps, 0, 1, c.retryDeadLetters⟩ c.naming
  policy := c.policy

theorem levels_eq : c.levels delays
    = ⟨.main, 0, c.blocking.attempts, c.retryDeadLetters⟩ :: c.retryLevels delays
      ++ [⟨if c.deadLetters then .deadLetter else .noOps, 0, 1, c.retryDeadLetters⟩] := rfl

theorem map_delay_retryLevels : (c.retryLevels delays).map Level.delay = delays := by
  rw [retryLevels, List.map_map]
  exact List.map_id delays

theorem innerLevels_levels : innerLevels (c.levels delays) = c.retryLevels delays := by
  rw [levels_eq, innerLevels_eq]

variable {c delays}

/-- The levels of a configuration have attempts, and delays that fit. -/
theorem fits_of_mem_levels (hattempts : 1 ≤ c.blocking.attempts)
    (hlongest : ∀ d ∈ delays, d ≤ longestDelay) {l : Level} (hl : l ∈ c.levels delays) :
    1 ≤ l.maxAttempts ∧ l.delay ≤ longestDelay := by
  rw [levels_eq, List.cons_append, List.mem_cons, List.mem_append, List.mem_singleton] at hl
  rcases hl with rfl | hl | rfl
  · exact ⟨hattempts, UInt64.zero_le⟩
  · obtain ⟨d, hd, rfl⟩ := List.mem_map.1 hl
    exact ⟨hattempts, hlongest d hd⟩
  · exact ⟨UInt32.le_refl 1, UInt64.zero_le⟩

/-- **The check of the levels** looks for nothing else than the topic and the order of the delays. -/
theorem checkLevels_levels {topic : String} (hattempts : 1 ≤ c.blocking.attempts)
    (hlongest : ∀ d ∈ delays, d ≤ longestDelay) :
    checkLevels topic (c.levels delays) = .ok () ↔ topic ≠ "" ∧ delays.Pairwise (· ≤ ·) := by
  have hfits := fun l hl => @fits_of_mem_levels c delays hattempts hlongest l hl
  have hretry : ∀ l ∈ c.retryLevels delays, l.role = .retry := by
    intro l hl
    obtain ⟨d, _, rfl⟩ := List.mem_map.1 hl
    rfl
  have hends : (if c.deadLetters then Role.deadLetter else .noOps).isTerminal = true := by
    cases c.deadLetters <;> rfl
  rw [levels_eq] at hfits ⊢
  rw [checkLevels_eq_ok_iff, map_delay_retryLevels]
  constructor
  · rintro ⟨hnamed, _, _, _, _, hsorted, _⟩
    exact ⟨hnamed, hsorted⟩
  · rintro ⟨hnamed, hsorted⟩
    exact ⟨hnamed, rfl, hends, hretry, fun l hl => (hfits l hl).1, hsorted,
      fun l hl => (hfits l hl).2⟩

theorem terminal?_chainOf (topic : String) :
    (c.chainOf delays topic).terminal?.map Destination.role
      = some (if c.deadLetters then .deadLetter else .noOps) := by
  unfold Chain.terminal? chainOf nodes
  simp only [List.getLast?_concat]
  rfl

/-- **All chains have the same delays.** -/
theorem map_delay_chainOf (topic : String) :
    (c.chainOf delays topic).destinations.map Destination.delay
      = 0 :: c.naming.retryDelays (c.levels delays) ++ [0] := by
  have hretries : c.naming.retryDelays (c.levels delays)
      = (retryRuns c.reuse (c.retryLevels delays)).map fun run => run.level.delay := by
    rw [Naming.retryDelays, innerLevels_levels]
    rfl
  have hlength := c.naming.length_retrySuffixes (c.naming.retryDelays (c.levels delays))
  rw [hretries, List.length_map] at hlength
  have hnodes := map_retryNodes Destination.delay (fun run => run.level.delay) hlength
    fun run _ name => run.toDestination_delay topic name
  rw [hretries, ← hnodes]
  exact List.map_append

variable (c delays) in
/-- Under reuse, the levels of one delay have more attempts together than 32 bits hold. -/
def Overcrowded : Prop :=
  c.reuse = .single ∧ ∃ d ∈ delays, 4294967296 ≤ delays.count d * c.blocking.attempts.toNat

/-- **Each node has as many levels as there are delays like its own**, if the delays are sorted. -/
theorem crowded_retryLevels_iff (hattempts : 1 ≤ c.blocking.attempts)
    (hsorted : delays.Pairwise (· ≤ ·)) :
    Crowded c.reuse (c.retryLevels delays) ↔ c.Overcrowded delays := by
  have halike : ∀ l ∈ c.retryLevels delays, l.maxAttempts = c.blocking.attempts := by
    intro l hl
    obtain ⟨d, _, rfl⟩ := List.mem_map.1 hl
    rfl
  have hpos : ∀ l ∈ c.retryLevels delays, 1 ≤ l.maxAttempts.toNat := by
    intro l hl
    rw [halike l hl]
    exact UInt32.le_iff_toNat_le.1 hattempts
  have hgathered := gathered_retryRuns .single (c.retryLevels delays)
  have hdelays := hgathered.delays
  rw [← map_delay_retryLevels c delays] at hsorted
  have hstrict := strict_of_retryRuns hsorted
  rw [map_delay_retryLevels] at hdelays
  -- the attempts of a run are those of one level, for each delay like its own
  have hruns : ∀ run ∈ retryRuns .single (c.retryLevels delays),
      run.attempts = delays.count run.level.delay * c.blocking.attempts.toNat := by
    intro run hrun
    have hcount := count_delay_of_strict hstrict hrun
    rw [hdelays] at hcount
    rw [hcount]
    exact (hgathered.sound hpos run hrun).of_alike _ halike
  unfold Overcrowded
  by_cases hsingle : c.reuse = .single
  · rw [← any_overflows_iff, hsingle, List.any_eq_true, and_iff_right rfl]
    constructor
    · rintro ⟨run, hrun, hoverflows⟩
      have hmany := RetryRun.overflows_iff.1 hoverflows
      rw [hruns run hrun] at hmany
      refine ⟨run.level.delay, ?_, hmany⟩
      rw [← map_delay_retryLevels c delays]
      exact List.mem_map_of_mem (hgathered.level_mem run hrun)
    · rintro ⟨d, hd, hmany⟩
      rw [← hdelays] at hd
      obtain ⟨run, hrun, hreplicate⟩ := List.mem_flatMap.1 hd
      rw [List.eq_of_mem_replicate hreplicate, ← hruns run hrun] at hmany
      exact ⟨run, hrun, RetryRun.overflows_iff.2 hmany⟩
  · exact ⟨fun h => absurd h.1 hsingle, fun h => absurd h.1 hsingle⟩

variable (c delays) in
/-- The topic has a name, and its chain passes all checks. -/
structure Buildable (topic : String) : Prop where
  named : topic ≠ ""
  sorted : delays.Pairwise (· ≤ ·)
  fits : ¬c.Overcrowded delays
  distinct : ((c.chainOf delays topic).destinations.map Destination.name).Nodup

/-- **What building comes to** for the levels of a configuration. -/
theorem buildNodes_levels {chain : Chain} (hattempts : 1 ≤ c.blocking.attempts)
    (hlongest : ∀ d ∈ delays, d ≤ longestDelay) :
    (buildNodes chain.source (c.levels delays) c.naming = .ok chain.destinations
        ∧ chain.policy = c.policy)
      ↔ c.Buildable delays chain.source ∧ chain = c.chainOf delays chain.source := by
  obtain ⟨source, destinations, policy⟩ := chain
  have hchain : (⟨source, destinations, policy⟩ : Chain) = c.chainOf delays source
      ↔ destinations = (c.chainOf delays source).destinations ∧ policy = c.policy := by
    simp [chainOf]
  rw [levels_eq, buildNodes_eq_ok_iff, ← levels_eq, checkLevels_levels hattempts hlongest, hchain]
  constructor
  · rintro ⟨⟨⟨hnamed, hsorted⟩, hfits, hdistinct, hnodes⟩, hpolicy⟩
    have hfits := fun h => hfits ((crowded_retryLevels_iff hattempts hsorted).2 h)
    exact ⟨⟨hnamed, hsorted, hfits, hdistinct⟩, hnodes, hpolicy⟩
  · rintro ⟨h, hnodes, hpolicy⟩
    have hfits := fun hcrowded => h.fits ((crowded_retryLevels_iff hattempts h.sorted).1 hcrowded)
    exact ⟨⟨⟨h.named, h.sorted⟩, hfits, h.distinct, hnodes⟩, hpolicy⟩

/-- Levels that are not crowded break no pass down. -/
theorem foldlM_process_ne_overflow {levels : List Level} {naming : Naming} {policy : Policy}
    (hfits : ¬Crowded naming.reuse (innerLevels levels)) (topics : List String) :
    ∀ context : Context,
      topics.foldlM (fun context topic => context.process topic levels naming policy) context
        ≠ .error .overflow := by
  induction topics with
  | nil => exact fun context => nofun
  | cons topic rest ih =>
      intro context
      rw [List.foldlM_cons]
      cases hstep : context.process topic levels naming policy with
      | ok next => exact ih next
      | error interruption =>
          intro hoverflow
          cases hoverflow
          exact hfits (buildNodes_eq_overflow_iff.1 (Context.process_eq_overflow_iff.1 hstep)).2

/-- **A pass breaks down at its first topic or at none.** -/
theorem foldlM_process_eq_overflow_iff {levels : List Level} {naming : Naming} {policy : Policy}
    {context : Context} {topic : String} {rest : List String} :
    (topic :: rest).foldlM (fun context topic => context.process topic levels naming policy) context
        = .error .overflow
      ↔ checkLevels topic levels = .ok () ∧ Crowded naming.reuse (innerLevels levels) := by
  by_cases hcrowded : Crowded naming.reuse (innerLevels levels)
  · rw [List.foldlM_cons]
    constructor
    · intro hoverflow
      refine ⟨?_, hcrowded⟩
      cases hcheck : checkLevels topic levels with
      | ok u => rfl
      | error fault =>
          have hfault : context.process topic levels naming policy
              = .error (.reported (.invalidChain topic fault)) := by
            unfold Context.process buildNodes
            rw [hcheck]
            rfl
          rw [hfault] at hoverflow
          cases hoverflow
    · intro h
      rw [Context.process_eq_overflow_iff.2 (buildNodes_eq_overflow_iff.2 h)]
      rfl
  · exact ⟨fun h => absurd h (foldlM_process_ne_overflow hcrowded _ context),
      fun h => absurd h.2 hcrowded⟩

/-! ## §3. Valid configurations. -/

/-- What is asked of the numbers of a valid configuration. -/
theorem of_validate (valid : c.validate = .ok ()) :
    c.backoff.validate = .ok () ∧ 1 ≤ c.blocking.attempts
      ∧ (c.backoff.impliedAttempts? = none → 1 ≤ c.attempts) := by
  unfold validate at valid
  simp only [ite_error_eq_ok_iff] at valid
  obtain ⟨_, _, hattempts, hblocking, _, _, _, hbackoff⟩ := valid
  refine ⟨?_, UInt32.not_lt.1 hblocking, fun himplied => ?_⟩
  · cases h : c.backoff.validate with
    | error fault => simp [h] at hbackoff
    | ok u => rfl
  · rw [himplied] at hattempts
    exact UInt32.not_lt.1 fun hlt => hattempts (decide_eq_true hlt)

/-- There is an attempt for each listed delay, and one more. -/
theorem toNat_maxAttempts_of_explicit (hexact : c.backoff.IsExact) {listed : List UInt64}
    (hlisted : c.backoff = .explicit listed) : c.maxAttempts.toNat = listed.length + 1 := by
  rw [hlisted] at hexact
  have hlt : listed.length < 4294967295 := hexact
  have hmax : c.maxAttempts = UInt32.ofNat listed.length + 1 := by
    simp [maxAttempts, hlisted, Backoff.impliedAttempts?]
  rw [hmax, UInt32.toNat_add, UInt32.toNat_ofNat', UInt32.toNat_one]
  omega

section Valid

variable (valid : c.validate = .ok ()) (hexact : c.backoff.IsExact)
include valid hexact

theorem one_le_maxAttempts : 1 ≤ c.maxAttempts.toNat := by
  cases himplied : c.backoff.impliedAttempts? with
  | none =>
      have hattempts := (of_validate valid).2.2 himplied
      simp only [maxAttempts, himplied, Option.getD_none]
      exact UInt32.le_iff_toNat_le.1 hattempts
  | some n =>
      -- only a list of delays implies its attempts
      cases hb : c.backoff with
      | explicit listed =>
          rw [toNat_maxAttempts_of_explicit hexact hb]
          omega
      | _ =>
          rw [hb] at himplied
          cases himplied

/-- **The delays of a valid configuration are found.** -/
theorem generate_eq (draws : Draws) : c.backoff.generate c.maxAttempts draws
    = .ok (c.backoff.delays (c.maxAttempts.toNat - 1) draws) := by
  have hpos : ¬c.maxAttempts < 1 := by
    rw [UInt32.not_lt, UInt32.le_iff_toNat_le]
    exact one_le_maxAttempts valid hexact
  unfold Backoff.generate
  rw [(of_validate valid).1]
  simp [hpos, bind, Except.bind, pure, Except.pure]

/-- **The delays of a valid configuration** are those that the draws can give. -/
theorem yields_iff_generate : c.backoff.Yields (c.maxAttempts.toNat - 1) delays
    ↔ ∃ draws, c.backoff.generate c.maxAttempts draws = .ok delays := by
  have hlevels : ∀ listed, c.backoff = .explicit listed → listed.length = c.maxAttempts.toNat - 1 := by
    intro listed hlisted
    rw [toNat_maxAttempts_of_explicit hexact hlisted]
    omega
  rw [Backoff.yields_iff (of_validate valid).1 hexact hlevels]
  simp only [generate_eq valid hexact, Except.ok.injEq]

/-- **When a valid configuration builds**, and what. -/
theorem buildTopology_eq_ok_iff_of_valid {topics : List String} (htopics : topics ≠ [])
    {draws : Draws} (hdelays : c.backoff.generate c.maxAttempts draws = .ok delays)
    {context : Context} :
    c.buildTopology topics draws = .ok context ↔
      topics.Nodup ∧ (∀ topic ∈ topics, c.Buildable delays topic)
        ∧ context.chains = topics.map (c.chainOf delays) := by
  obtain ⟨hbackoff, hattempts, _⟩ := of_validate valid
  have hyields := (yields_iff_generate valid hexact).2 ⟨draws, hdelays⟩
  have hlongest := hyields.le_longestDelay hbackoff
  rw [buildTopology_eq_ok_iff]
  constructor
  · rintro ⟨_, _, hnodup, delays', hdelays', rfl, hbuilds⟩
    cases hdelays.symm.trans hdelays'
    have hchain := fun chain hmem => (buildNodes_levels hattempts hlongest).1 (hbuilds chain hmem)
    refine ⟨hnodup, List.forall_mem_map.2 fun chain hmem => (hchain chain hmem).1, ?_⟩
    calc context.chains
        = context.chains.map id := (List.map_id _).symm
      _ = context.chains.map (c.chainOf delays ∘ Chain.source) :=
          List.map_congr_left fun chain hmem => (hchain chain hmem).2
      _ = (context.chains.map Chain.source).map (c.chainOf delays) := List.map_map.symm
  · rintro ⟨hnodup, hbuildable, hchains⟩
    refine ⟨valid, htopics, hnodup, delays, hdelays, ?_, ?_⟩
    · rw [hchains, List.map_map]
      exact List.map_id topics
    · rw [hchains, List.forall_mem_map]
      exact fun topic hmem =>
        (buildNodes_levels hattempts hlongest).2 ⟨hbuildable topic hmem, rfl⟩

/-- **When a valid configuration breaks down.** -/
theorem buildTopology_eq_overflow_iff_of_valid {topics : List String} (htopics : topics ≠ [])
    {draws : Draws} (hdelays : c.backoff.generate c.maxAttempts draws = .ok delays) :
    c.buildTopology topics draws = .error .overflow ↔
      c.Overcrowded delays ∧ delays.Pairwise (· ≤ ·) ∧ topics.head? ≠ some "" := by
  obtain ⟨hbackoff, hattempts, _⟩ := of_validate valid
  have hyields := (yields_iff_generate valid hexact).2 ⟨draws, hdelays⟩
  have hlongest := hyields.le_longestDelay hbackoff
  obtain ⟨topic, rest, rfl⟩ := List.exists_cons_of_ne_nil htopics
  have hpass : c.buildTopology (topic :: rest) draws = (topic :: rest).foldlM
      (fun (context : Context) topic =>
        context.process topic (c.levels delays) c.naming c.policy) {} := by
    unfold buildTopology
    rw [valid, hdelays]
    rfl
  rw [hpass, foldlM_process_eq_overflow_iff, checkLevels_levels hattempts hlongest, innerLevels_levels]
  constructor
  · rintro ⟨⟨hnamed, hsorted⟩, hcrowded⟩
    refine ⟨(crowded_retryLevels_iff hattempts hsorted).1 hcrowded, hsorted, ?_⟩
    simpa using hnamed
  · rintro ⟨hcrowded, hsorted, hnamed⟩
    refine ⟨⟨?_, hsorted⟩, (crowded_retryLevels_iff hattempts hsorted).2 hcrowded⟩
    simpa using hnamed

/-- **What can go wrong** with a valid configuration. -/
theorem exists_error_iff_of_valid {topics : List String} (htopics : topics ≠ []) {draws : Draws}
    (hdelays : c.backoff.generate c.maxAttempts draws = .ok delays) :
    (∃ interruption, c.buildTopology topics draws = .error interruption) ↔
      "" ∈ topics ∨ ¬topics.Nodup
        ∨ (∃ listed, c.backoff = .explicit listed ∧ Descends listed)
        ∨ (∃ topic ∈ topics, ¬((c.chainOf delays topic).destinations.map Destination.name).Nodup)
        ∨ c.Overcrowded delays := by
  have hyields := (yields_iff_generate valid hexact).2 ⟨draws, hdelays⟩
  have hok := fun context =>
    @buildTopology_eq_ok_iff_of_valid _ _ valid hexact topics htopics draws hdelays context
  constructor
  · rintro ⟨fault, hfault⟩
    by_contra hnone
    simp only [not_or, not_exists, not_and, not_not] at hnone
    obtain ⟨hnamed, hnodup, hlisted, hdistinct, hfits⟩ := hnone
    have hsorted : delays.Pairwise (· ≤ ·) := by
      rcases hyields.sorted_or_explicit with hsorted | hexplicit
      · exact hsorted
      · exact not_descends_iff.1 (hlisted delays hexplicit)
    have hbuildable : ∀ topic ∈ topics, c.Buildable delays topic := fun topic htopic =>
      ⟨fun heq => hnamed (heq ▸ htopic), hsorted, hfits, hdistinct topic htopic⟩
    have hbuilt := (hok ⟨topics.map (c.chainOf delays)⟩).2 ⟨hnodup, hbuildable, rfl⟩
    rw [hbuilt] at hfault
    cases hfault
  · intro hwrong
    cases hbuilt : c.buildTopology topics draws with
    | error fault => exact ⟨fault, rfl⟩
    | ok context =>
        exfalso
        obtain ⟨hnodup, hbuildable, _⟩ := (hok context).1 hbuilt
        obtain ⟨first, hfirst⟩ := List.exists_mem_of_ne_nil topics htopics
        rcases hwrong with hempty | htwice | ⟨listed, hlisted, hdescends⟩ | ⟨topic, htopic, hclash⟩
          | hcrowded
        · exact (hbuildable "" hempty).named rfl
        · exact htwice hnodup
        · rw [hlisted] at hyields
          cases hyields
          exact not_descends_iff.2 (hbuildable first hfirst).sorted hdescends
        · exact hclash (hbuildable topic htopic).distinct
        · exact (hbuildable first hfirst).fits hcrowded

end Valid

/-- **A valid configuration builds.**  The delays are those that the draws can give.  Whatever is
drawn, building fails only for a topic without a name, a topic that is listed twice, listed delays
that decrease, a chain with two nodes of one name, or a shared node whose attempts 32 bits do not
hold; the last breaks the pass down, unless the first topic or the order of the delays is at fault
before.  Otherwise it gives one chain for each topic,
in their order and all with the same delays, one less than the attempts: they never decrease, drawn
ones are between the bounds, and each chain is what is built from retry levels with these delays and
ends in dead letters if the configuration has them. -/
theorem validated_configurations_build (valid : c.validate = .ok ()) (hexact : c.backoff.IsExact)
    {topics : List String} (htopics : topics ≠ []) :
    (∀ delays, c.backoff.Yields (c.maxAttempts.toNat - 1) delays
      ↔ ∃ draws, c.backoff.generate c.maxAttempts draws = .ok delays)
    ∧ ∀ draws, ∃ delays, c.backoff.generate c.maxAttempts draws = .ok delays
      ∧ delays.length + 1 = c.maxAttempts.toNat
      ∧ ((∃ interruption, c.buildTopology topics draws = .error interruption) ↔
          "" ∈ topics ∨ ¬topics.Nodup
            ∨ (∃ listed, c.backoff = .explicit listed ∧ Descends listed)
            ∨ (∃ topic ∈ topics,
              ¬((c.chainOf delays topic).destinations.map Destination.name).Nodup)
            ∨ c.Overcrowded delays)
      ∧ (c.buildTopology topics draws = .error .overflow ↔
          c.Overcrowded delays ∧ delays.Pairwise (· ≤ ·) ∧ topics.head? ≠ some "")
      ∧ ∀ context, c.buildTopology topics draws = .ok context →
          context.chains = topics.map (c.chainOf delays)
          ∧ delays.Pairwise (· ≤ ·)
          ∧ (∀ min max, c.backoff = .uniformRandom min max → ∀ d ∈ delays, min ≤ d ∧ d ≤ max)
          ∧ (innerLevels (c.levels delays)).map Level.delay = delays
          ∧ ∀ chain ∈ context.chains,
            buildNodes chain.source (c.levels delays) c.naming = .ok chain.destinations
              ∧ chain.destinations.map Destination.delay
                = 0 :: c.naming.retryDelays (c.levels delays) ++ [0]
              ∧ chain.terminal?.map Destination.role
                = some (if c.deadLetters then .deadLetter else .noOps) := by
  refine ⟨fun _ => yields_iff_generate valid hexact, fun draws => ?_⟩
  have hdelays := generate_eq valid hexact draws
  have hyields := (yields_iff_generate valid hexact).2 ⟨draws, hdelays⟩
  have hone := one_le_maxAttempts valid hexact
  refine ⟨_, hdelays, ?_, exists_error_iff_of_valid valid hexact htopics hdelays,
    buildTopology_eq_overflow_iff_of_valid valid hexact htopics hdelays, ?_⟩
  · rw [hyields.length]
    omega
  · intro context hok
    obtain ⟨_, hbuildable, hchains⟩ :=
      (buildTopology_eq_ok_iff_of_valid valid hexact htopics hdelays).1 hok
    obtain ⟨_, _, _, delays', hdelays', _, hnodes⟩ := buildTopology_eq_ok_iff.1 hok
    cases hdelays.symm.trans hdelays'
    obtain ⟨first, hfirst⟩ := List.exists_mem_of_ne_nil topics htopics
    refine ⟨hchains, (hbuildable first hfirst).sorted, fun min max hrandom => ?_, ?_, ?_⟩
    · rw [hrandom] at hyields ⊢
      exact hyields.within
    · rw [innerLevels_levels, map_delay_retryLevels]
    · intro chain hchain
      refine ⟨(hnodes chain hchain).1, ?_⟩
      rw [hchains] at hchain
      obtain ⟨topic, _, rfl⟩ := List.mem_map.1 hchain
      exact ⟨map_delay_chainOf topic, terminal?_chainOf topic⟩

/-- Two listed delays. -/
def listing : Configuration := { backoff := .explicit [10, 20] }

/-- Two retry levels that share a node, with 4294967296 attempts together. -/
def overcrowding : Configuration where
  backoff := .fixed 100
  reuse := .single
  blocking := { attempts := 2147483648 }

/-- Nothing goes wrong with two listed delays for two topics; a node that is too crowded breaks the
pass down. -/
theorem validated_configurations_build_of_listing :
    (∃ context, listing.buildTopology ["orders", "invoices"] (fun _ => 0) = .ok context
      ∧ context.chains.map Chain.source = ["orders", "invoices"]
      ∧ ∀ chain ∈ context.chains, chain.destinations.map Destination.delay = [0, 10, 20, 0])
    ∧ overcrowding.buildTopology ["orders"] (fun _ => 0) = .error .overflow := by
  refine ⟨?_, ?_⟩
  · have hexact : listing.backoff.IsExact := show 2 < 4294967295 by decide
    obtain ⟨_, hall⟩ := @validated_configurations_build listing (by decide +kernel) hexact
      ["orders", "invoices"] (by decide)
    obtain ⟨delays, hdelays, _, hfails, _, hbuilt⟩ := hall fun _ => 0
    have hlisted : listing.backoff.generate listing.maxAttempts (fun _ => 0) = .ok [10, 20] := by
      decide +kernel
    cases hlisted.symm.trans hdelays
    cases hresult : listing.buildTopology ["orders", "invoices"] (fun _ => 0) with
    | error interruption =>
        exfalso
        rcases hfails.1 ⟨interruption, hresult⟩ with hempty | htwice | ⟨_, hlist, hdescends⟩ | hclash
          | hcrowded
        · exact absurd hempty (by decide)
        · exact htwice (by decide)
        · cases hlist
          exact not_descends_iff.2 (by decide) hdescends
        · exact absurd hclash (by decide +kernel)
        · cases hcrowded.1
    | ok context =>
        obtain ⟨hchains, _, _, _, heach⟩ := hbuilt context hresult
        refine ⟨context, rfl, by rw [hchains]; rfl, fun chain hchain => ?_⟩
        rw [(heach chain hchain).2.1]
        decide +kernel
  · obtain ⟨_, hall⟩ := @validated_configurations_build overcrowding (by decide +kernel) trivial
      ["orders"] (by decide)
    obtain ⟨delays, hdelays, _, _, hoverflow, _⟩ := hall fun _ => 0
    have hfixed : overcrowding.backoff.generate overcrowding.maxAttempts (fun _ => 0)
        = .ok [100, 100] := by
      decide +kernel
    cases hfixed.symm.trans hdelays
    exact hoverflow.2 ⟨⟨rfl, 100, by decide, by decide +kernel⟩, by decide, by decide⟩

end Configuration

end Redelivery
