/-
  Redelivery.Proofs.Topology.Shape
  ────────────────────────────────
  **The shape of every chain that is built.**

  Main, retries, terminal: the names are distinct, the source topic is the
  same everywhere, and only the last node is terminal (`Shaped`).

      built = ofLevel main :: retryNodes … ++ [ofLevel terminal]
-/
import Redelivery.Proofs.Topology.Runs

namespace Redelivery

/-! ## §1. Levels that pass the check. -/

/-- A check that was passed did not find its fault, and those behind it were passed. -/
theorem ite_error_eq_ok_iff {ε α : Type} {p : Prop} [Decidable p] {fault : ε} {rest : Except ε α}
    {a : α} : (if p then .error fault else rest) = .ok a ↔ ¬p ∧ rest = .ok a := by
  split <;> simp_all

/-- **Levels that pass the check** are a main level, retry levels and a terminal level, each with
an attempt. -/
theorem of_checkLevels {source : String} {levels : List Level}
    (h : checkLevels source levels = .ok ()) :
    ∃ main inner terminal, levels = main :: inner ++ [terminal] ∧ main.role = .main
      ∧ (∀ l ∈ inner, l.role = .retry) ∧ terminal.role.isTerminal = true
      ∧ ∀ l ∈ levels, 1 ≤ l.maxAttempts.toNat := by
  unfold checkLevels at h
  simp only [ite_error_eq_ok_iff] at h
  obtain ⟨_, hlength, hmain, hterminal, hinner, hattempts, _⟩ := h
  -- two levels at least: take the first and the last
  cases levels with
  | nil => exact absurd (show ([] : List Level).length < 2 by decide) hlength
  | cons main rest =>
      have hne : rest ≠ [] := by
        intro hnil
        rw [hnil] at hlength
        exact hlength (Nat.lt_succ_self 1)
      obtain ⟨inner, terminal, rfl⟩ : ∃ inner terminal, rest = inner ++ [terminal] :=
        ⟨rest.dropLast, rest.getLast hne, (List.dropLast_concat_getLast hne).symm⟩
      have hinnerLevels : innerLevels (main :: (inner ++ [terminal])) = inner := by
        unfold innerLevels
        rw [List.drop_one, List.tail_cons, List.dropLast_concat]
      refine ⟨main, inner, terminal, rfl, ?_, ?_, ?_, ?_⟩
      · exact Option.some.inj (Decidable.not_not.1 hmain)
      · intro l hl
        rw [hinnerLevels, List.any_eq_true] at hinner
        have hrole : ¬decide (l.role ≠ .retry) = true := fun hr => hinner ⟨l, hl, hr⟩
        rw [decide_eq_true_eq] at hrole
        exact Decidable.not_not.1 hrole
      · rw [← List.cons_append, List.getLast?_concat, Bool.not_eq_false] at hterminal
        exact hterminal
      · intro l hl
        rw [List.any_eq_true] at hattempts
        have hpos : ¬decide (l.maxAttempts < 1) = true := fun hr => hattempts ⟨l, hl, hr⟩
        rw [decide_eq_true_eq, UInt32.lt_iff_toNat_lt] at hpos
        exact Nat.le_of_not_lt hpos

/-- The inner levels are all but the first and the last. -/
theorem innerLevels_eq (main : Level) (inner : List Level) (terminal : Level) :
    innerLevels (main :: inner ++ [terminal]) = inner := by
  unfold innerLevels
  rw [List.cons_append, List.drop_one, List.tail_cons, List.dropLast_concat]

/-! ## §2. Names. -/

/-- Where no name is repeated, all are distinct, and none was seen before. -/
theorem firstRepeated?_go {seen l : List String} (h : firstRepeated?.go seen l = none) :
    l.Nodup ∧ ∀ s ∈ l, s ∉ seen := by
  -- induction on the names that are left, with those before them in `seen`
  induction l generalizing seen with
  | nil => exact ⟨List.nodup_nil, fun s hs => absurd hs List.not_mem_nil⟩
  | cons s rest ih =>
      unfold firstRepeated?.go at h
      by_cases hseen : seen.contains s = true
      · rw [if_pos hseen] at h
        cases h
      · rw [if_neg hseen] at h
        obtain ⟨hnodup, hfresh⟩ := ih h
        have hnew : s ∉ seen := fun hmem => hseen (List.contains_iff_mem.2 hmem)
        refine ⟨List.nodup_cons.2 ⟨fun hmem => hfresh s hmem List.mem_cons_self, hnodup⟩, ?_⟩
        intro t ht
        rcases List.mem_cons.1 ht with rfl | ht
        · exact hnew
        · exact fun hmem => hfresh t ht (List.mem_cons_of_mem s hmem)

/-- The check for repeated names finds every repetition. -/
theorem nodup_of_firstRepeated? {l : List String} (h : firstRepeated? l = none) : l.Nodup :=
  (firstRepeated?_go h).1

/-! ## §3. Retry nodes. -/

theorem length_delayTags_go (delays before rest : List UInt64) :
    (Naming.delayTags.go delays before rest).length = rest.length := by
  induction rest generalizing before with
  | nil => rfl
  | cons d rest ih =>
      show (Naming.delayTags.go delays (d :: before) rest).length + 1 = rest.length + 1
      rw [ih]

theorem Naming.length_tags (n : Naming) (delays : List UInt64) :
    (n.tags delays).length = delays.length := by
  unfold tags
  split
  · rfl
  · rw [List.length_map, List.length_range]
  · exact length_delayTags_go _ [] _

/-- Every retry node gets one suffix. -/
theorem Naming.length_retrySuffixes (n : Naming) (delays : List UInt64) :
    (n.retrySuffixes delays).length = delays.length := by
  unfold retrySuffixes
  rw [List.length_map, length_tags]

/-- The nodes of some runs, under suffixed names. -/
def retryNodes (source : String) (runs : List RetryRun) (suffixes : List String) :
    List Destination :=
  (runs.zip suffixes).map fun (run, suffix) => run.toDestination source (source ++ suffix)

/-- What depends on the run alone is seen on the nodes. -/
theorem map_retryNodes {β : Type} {source : String} {runs : List RetryRun}
    {suffixes : List String} (f : Destination → β) (g : RetryRun → β)
    (hlength : suffixes.length = runs.length)
    (hfg : ∀ run ∈ runs, ∀ name, f (run.toDestination source name) = g run) :
    (retryNodes source runs suffixes).map f = runs.map g := by
  have hzip : (runs.zip suffixes).map Prod.fst = runs :=
    List.map_fst_zip (Nat.le_of_eq hlength.symm)
  calc (retryNodes source runs suffixes).map f
      = (runs.zip suffixes).map fun p => g p.1 := by
        unfold retryNodes
        rw [List.map_map]
        apply List.map_congr_left
        intro p hp
        exact hfg p.1 (List.of_mem_zip hp).1 _
    _ = ((runs.zip suffixes).map Prod.fst).map g := by rw [List.map_map]; rfl
    _ = runs.map g := by rw [hzip]

/-- A retry node is one of the runs, under some name. -/
theorem mem_retryNodes {source : String} {runs : List RetryRun} {suffixes : List String}
    {d : Destination} (hd : d ∈ retryNodes source runs suffixes) :
    ∃ run ∈ runs, ∃ name, d = run.toDestination source name := by
  unfold retryNodes at hd
  obtain ⟨p, hp, rfl⟩ := List.mem_map.1 hd
  exact ⟨p.1, (List.of_mem_zip hp).1, _, rfl⟩

namespace RetryRun

variable (run : RetryRun) (source name : String)

theorem toDestination_source : (run.toDestination source name).source = source := by
  unfold toDestination
  split <;> rfl

theorem toDestination_role : (run.toDestination source name).role = run.level.role := by
  unfold toDestination
  split <;> rfl

theorem toDestination_delay : (run.toDestination source name).delay = run.level.delay := by
  unfold toDestination
  split <;> rfl

theorem toDestination_reusable :
    (run.toDestination source name).reusable = decide (1 < run.count) := by
  unfold toDestination
  split
  · rename_i hcount
    rw [decide_eq_true hcount]
  · rename_i hcount
    rw [decide_eq_false hcount]
    rfl

/-- The attempts of a run fit exactly if their sum is below 2 ^ 32. -/
theorem overflows_eq_false_iff : run.overflows = false ↔ run.attempts < 4294967296 := by
  unfold overflows
  rw [decide_eq_false_iff_not, Nat.not_le]

variable {run} in
/-- The node of a run that does not overflow has its attempts. -/
theorem Sound.toDestination_maxAttempts {levels : List Level} (hsound : run.Sound levels)
    (hfits : run.overflows = false) :
    (run.toDestination source name).maxAttempts.toNat = run.attempts := by
  unfold toDestination
  split
  · exact UInt32.toNat_ofNat_of_lt' (run.overflows_eq_false_iff.1 hfits)
  · rename_i hcount
    exact (hsound.of_count hcount).symm

end RetryRun

/-- Every retry node has an attempt. -/
theorem maxAttempts_pos_of_mem_retryNodes {source : String} {runs : List RetryRun}
    {levels : List Level} {suffixes : List String} (hsound : ∀ run ∈ runs, run.Sound levels)
    (hfits : ∀ run ∈ runs, run.overflows = false) {d : Destination}
    (hd : d ∈ retryNodes source runs suffixes) : 1 ≤ d.maxAttempts.toNat := by
  obtain ⟨run, hrun, name, rfl⟩ := mem_retryNodes hd
  rw [(hsound run hrun).toDestination_maxAttempts source name (hfits run hrun)]
  exact (hsound run hrun).attempts_pos

/-! ## §4. The shape of a chain. -/

/-- Main, retries, terminal, with distinct names. -/
structure Shaped (source : String) (main : Destination) (retries : List Destination)
    (terminal : Destination) : Prop where
  names : ((main :: retries ++ [terminal]).map Destination.name).Nodup
  sources : ∀ d ∈ main :: retries ++ [terminal], d.source = source
  main_name : main.name = source
  main_role : main.role = .main
  main_plain : main.reusable = false
  retry_roles : ∀ d ∈ retries, d.role = .retry
  terminal_role : terminal.role.isTerminal = true

/-- The suffix of a terminal node. -/
def terminalSuffix (naming : Naming) (terminal : Level) : String :=
  if terminal.role = .deadLetter then naming.deadLetterSuffix else Naming.noOpsSuffix

/-- **What is built of levels that pass the check.** -/
theorem buildNodes_of_check {source : String} {main terminal : Level} {inner : List Level}
    (n : Naming) (hcheck : checkLevels source (main :: inner ++ [terminal]) = .ok ()) :
    buildNodes source (main :: inner ++ [terminal]) n
      = if (retryRuns n.reuse inner).any RetryRun.overflows then .error .overflow
        else match firstRepeated?
            ((nodes source main (retryRuns n.reuse inner) terminal n).map Destination.name) with
          | some name => .error (.reported (.nameUsedTwice name source))
          | none => .ok (nodes source main (retryRuns n.reuse inner) terminal n) := by
  unfold buildNodes
  rw [hcheck, innerLevels_eq, List.getLast?_concat]
  rfl

/-- Nothing is built of levels that do not pass the check. -/
theorem checkLevels_of_buildNodes {source : String} {levels : List Level} {naming : Naming}
    {built : List Destination} (h : buildNodes source levels naming = .ok built) :
    checkLevels source levels = .ok () := by
  unfold buildNodes at h
  cases hcheck : checkLevels source levels with
  | error fault =>
      rw [hcheck] at h
      cases h
  | ok u => rfl

/-- **Every chain that is built has this shape**, and its nodes are those of its levels. -/
theorem of_buildNodes {source : String} {levels : List Level} {naming : Naming}
    {built : List Destination} (h : buildNodes source levels naming = .ok built) :
    ∃ main inner terminal suffixes, levels = main :: inner ++ [terminal]
      ∧ (∀ l ∈ levels, 1 ≤ l.maxAttempts.toNat)
      ∧ main.role = .main ∧ (∀ l ∈ inner, l.role = .retry) ∧ terminal.role.isTerminal = true
      ∧ suffixes.length = (retryRuns naming.reuse inner).length
      ∧ built = .ofLevel source source main :: retryNodes source (retryRuns naming.reuse inner) suffixes
          ++ [.ofLevel source (source ++ terminalSuffix naming terminal) terminal]
      ∧ (built.map Destination.name).Nodup
      ∧ ∀ run ∈ retryRuns naming.reuse inner, run.overflows = false := by
  have hcheck := checkLevels_of_buildNodes h
  obtain ⟨main, inner, terminal, rfl, hmain, hinner, hterminal, hpos⟩ := of_checkLevels hcheck
  rw [buildNodes_of_check naming hcheck, ite_error_eq_ok_iff] at h
  obtain ⟨hfits, h⟩ := h
  split at h
  · cases h
  · rename_i hnames
    injection h with hbuilt
    subst hbuilt
    refine ⟨main, inner, terminal, _, rfl, hpos, hmain, hinner, hterminal, ?_, rfl,
      nodup_of_firstRepeated? hnames, ?_⟩
    · rw [Naming.length_retrySuffixes, List.length_map]
    · simpa using hfits

/-- **Every node of a chain that was built has an attempt.** -/
theorem one_le_maxAttempts_of_buildNodes {source : String} {levels : List Level} {naming : Naming}
    {built : List Destination} (h : buildNodes source levels naming = .ok built) {d : Destination}
    (hd : d ∈ built) : 1 ≤ d.maxAttempts.toNat := by
  obtain ⟨main, inner, terminal, suffixes, rfl, hpos, _, _, _, _, rfl, _, hfits⟩ := of_buildNodes h
  rw [List.cons_append, List.mem_cons, List.mem_append, List.mem_singleton] at hd
  rcases hd with rfl | hretry | rfl
  · exact hpos main (by simp)
  · have hsound := (gathered_retryRuns naming.reuse inner).sound fun l hl => hpos l (by simp [hl])
    exact maxAttempts_pos_of_mem_retryNodes hsound hfits hretry
  · exact hpos terminal (by simp)

/-- All nodes of a chain have its source topic. -/
theorem source_of_mem_nodes {source name : String} {main terminal : Level} {runs : List RetryRun}
    {suffixes : List String} {d : Destination}
    (hd : d ∈ Destination.ofLevel source source main :: retryNodes source runs suffixes
      ++ [Destination.ofLevel source name terminal]) : d.source = source := by
  rw [List.cons_append, List.mem_cons, List.mem_append, List.mem_singleton] at hd
  rcases hd with rfl | hd | rfl
  · rfl
  · obtain ⟨run, _, name, rfl⟩ := mem_retryNodes hd
    exact run.toDestination_source source name
  · rfl

/-- Nodes with distinct names and the right roles are in shape. -/
theorem shaped_of_nodes {source : String} {main terminal : Level} {runs : List RetryRun}
    {suffixes : List String} {name : String} (hmain : main.role = .main)
    (hruns : ∀ run ∈ runs, run.level.role = .retry) (hterminal : terminal.role.isTerminal = true)
    (hnames : ((Destination.ofLevel source source main :: retryNodes source runs suffixes
      ++ [Destination.ofLevel source name terminal]).map Destination.name).Nodup) :
    Shaped source (.ofLevel source source main) (retryNodes source runs suffixes)
      (.ofLevel source name terminal) where
  names := hnames
  sources := fun _ hd => source_of_mem_nodes hd
  main_name := rfl
  main_role := hmain
  main_plain := rfl
  retry_roles := by
    intro d hd
    obtain ⟨run, hrun, name, rfl⟩ := mem_retryNodes hd
    rw [run.toDestination_role source name, hruns run hrun]
  terminal_role := hterminal

end Redelivery
