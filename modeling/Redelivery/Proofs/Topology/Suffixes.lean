/-
  Redelivery.Proofs.Topology.Suffixes
  ───────────────────────────────────
  **Names are the source topic and a suffix.**

  The suffixes of a chain depend on its levels and on the naming alone.  Those
  of the retry nodes are told apart by an index, or by a delay and a count of
  the nodes that had that delay before:

      name i = source ++ suffix i
      "-d"   one node of delay d        "-d-k"   the k-th of several

  A numeral has no dash, so a tag says what it was made of, and retry nodes
  never clash with each other.  A chain fails to build only where the retry
  suffix or the terminal one meets another, or where 32 bits do not hold the
  attempts of a shared node, and then for every source topic.
-/
import Redelivery.Proofs.Topology.Merging
import Redelivery.Proofs.Topology.Registration
import Mathlib.Data.List.Nodup

namespace Redelivery

/-! ## §1. Tags. -/

/-- What a delay and perhaps a count are written as. -/
def tagOf (delay : UInt64) (count : Option Nat) : String :=
  "-" ++ toString delay.toNat ++ (count.map fun k => "-" ++ toString k).getD ""

/-- A numeral is read back. -/
theorem toList_toString_inj {m n : Nat} :
    (toString m).toList = (toString n).toList ↔ m = n := by
  refine ⟨fun h => ?_, fun h => by rw [h]⟩
  rw [Nat.toString_eq_repr, Nat.toString_eq_repr, Nat.toList_repr, Nat.toList_repr] at h
  have hread := congrArg (Nat.ofDigitChars 10 · 0) h
  simpa only [Nat.ofDigitChars_ten_toDigits] using hread

/-- **A numeral has no dash.** -/
theorem dash_not_mem_toString (n : Nat) : '-' ∉ (toString n).toList := by
  rw [Nat.toString_eq_repr, Nat.toList_repr]
  intro hmem
  have hdigit := Nat.isDigit_of_mem_toDigits (by decide) (by decide) hmem
  exact absurd hdigit (by decide)

theorem toList_tagOf (delay : UInt64) (count : Option Nat) :
    (tagOf delay count).toList = '-' :: ((toString delay.toNat).toList
      ++ (count.map fun k => '-' :: (toString k).toList).getD []) := by
  unfold tagOf
  cases count with
  | none => simp
  | some k => simp

/-- **A tag says what it was made of.** -/
theorem tagOf_inj {delay delay' : UInt64} {count count' : Option Nat} :
    tagOf delay count = tagOf delay' count' ↔ delay = delay' ∧ count = count' := by
  refine ⟨fun h => ?_, fun h => by rw [h.1, h.2]⟩
  have hchars := congrArg String.toList h
  rw [toList_tagOf, toList_tagOf, List.cons_inj_right] at hchars
  -- a count begins at the first dash behind the delay, and without a count there is none
  have hdash := dash_not_mem_toString delay.toNat
  have hdash' := dash_not_mem_toString delay'.toNat
  have hdelay : (toString delay.toNat).toList = (toString delay'.toNat).toList → delay = delay' :=
    fun heq => UInt64.toNat_inj.1 (toList_toString_inj.1 heq)
  cases count with
  | none =>
      cases count' with
      | none =>
          simp only [Option.map_none, Option.getD_none, List.append_nil] at hchars
          exact ⟨hdelay hchars, rfl⟩
      | some k' =>
          simp only [Option.map_none, Option.map_some, Option.getD_none, Option.getD_some,
            List.append_nil] at hchars
          rw [hchars] at hdash
          exact absurd (List.mem_append_right _ List.mem_cons_self) hdash
  | some k =>
      cases count' with
      | none =>
          simp only [Option.map_none, Option.map_some, Option.getD_none, Option.getD_some,
            List.append_nil] at hchars
          rw [← hchars] at hdash'
          exact absurd (List.mem_append_right _ List.mem_cons_self) hdash'
      | some k' =>
          simp only [Option.map_some, Option.getD_some] at hchars
          obtain ⟨hdelays, _, hcounts⟩ :=
            (List.append_cons_inj_of_notMem hdash (dash_not_mem_toString k)).1 hchars
          exact ⟨hdelay hdelays, congrArg some (toList_toString_inj.1 hcounts)⟩

/-! ## §2. The tags of retry nodes. -/

namespace Naming

/-- The parts of the tags of the delays that are left, with those passed in `before`. -/
def tagParts (delays : List UInt64) (before : List UInt64) : List UInt64 →
    List (UInt64 × Option Nat)
  | [] => []
  | d :: rest =>
      (d, if delays.count d > 1 then some (before.count d) else none)
        :: tagParts delays (d :: before) rest

theorem delayTags_go_eq (delays before rest : List UInt64) :
    delayTags.go delays before rest = (tagParts delays before rest).map fun p => tagOf p.1 p.2 := by
  induction rest generalizing before with
  | nil => rfl
  | cons d rest ih =>
      rw [tagParts, List.map_cons, ← ih]
      show (if delays.count d > 1 then _ else _) :: _ = _
      congr 1
      unfold tagOf
      split
      · exact String.append_assoc
      · exact String.append_empty.symm

/-- A count is at least that of the nodes before, and a delay without a count is one that is left. -/
theorem of_mem_tagParts {delays before rest : List UInt64} {d : UInt64} {count : Option Nat}
    (h : (d, count) ∈ tagParts delays before rest) :
    d ∈ rest ∧ (count = none → delays.count d ≤ 1) ∧ ∀ k, count = some k → before.count d ≤ k := by
  induction rest generalizing before with
  | nil => cases h
  | cons first rest ih =>
      rw [tagParts, List.mem_cons] at h
      rcases h with heq | hlater
      · cases heq
        refine ⟨List.mem_cons_self, fun hnone => ?_, fun k hsome => ?_⟩
        · split at hnone
          · cases hnone
          · omega
        · split at hsome
          · cases hsome
            exact Nat.le_refl _
          · cases hsome
      · obtain ⟨hmem, hnone, hsome⟩ := ih hlater
        refine ⟨List.mem_cons_of_mem first hmem, hnone, fun k hk => ?_⟩
        have hcount := List.count_le_count_cons (a := d) (b := first) (l := before)
        exact Nat.le_trans hcount (hsome k hk)

/-- **No part comes twice**, if `delays` are those passed and those left. -/
theorem nodup_tagParts {delays before rest : List UInt64}
    (h : ∀ d, delays.count d = before.count d + rest.count d) :
    (tagParts delays before rest).Nodup := by
  -- induction on the delays that are left, each of which is passed in its turn
  induction rest generalizing before with
  | nil => exact List.nodup_nil
  | cons first rest ih =>
      rw [tagParts, List.nodup_cons]
      refine ⟨fun hmem => ?_, ih fun d => ?_⟩
      · obtain ⟨hleft, hnone, hsome⟩ := of_mem_tagParts hmem
        have hcount := h first
        have hpos := List.count_pos_iff.2 hleft
        rw [List.count_cons_self] at hcount hsome
        by_cases hmany : delays.count first > 1
        · have hle := hsome (before.count first) (if_pos hmany)
          omega
        · omega
      · rw [h d, List.count_cons, List.count_cons]
        omega

theorem nodup_delayTags (delays : List UInt64) : (delayTags delays).Nodup := by
  have hparts : (tagParts delays [] delays).Nodup := nodup_tagParts fun d => by simp
  show (delayTags.go delays [] delays).Nodup
  rw [delayTags_go_eq]
  refine List.Nodup.map (fun p q hpq => ?_) hparts
  exact Prod.ext (tagOf_inj.1 hpq).1 (tagOf_inj.1 hpq).2

theorem nodup_indexTags (n : Nat) : ((List.range n).map fun i => "-" ++ toString i).Nodup := by
  refine List.Nodup.map (fun i j hij => ?_) List.nodup_range
  have htail := (String.append_right_inj _).1 hij
  exact toList_toString_inj.1 (congrArg String.toList htail)

theorem nodup_tags (n : Naming) (delays : List UInt64) : (n.tags delays).Nodup := by
  unfold tags
  split
  · exact List.nodup_singleton _
  · exact nodup_indexTags _
  · exact nodup_delayTags _

/-- **Retry suffixes never clash with each other.** -/
theorem nodup_retrySuffixes (n : Naming) (delays : List UInt64) : (n.retrySuffixes delays).Nodup :=
  (n.nodup_tags delays).map fun _ _ h => (String.append_right_inj _).1 h

/-- The delays of the retry nodes of a chain. -/
def retryDelays (n : Naming) (levels : List Level) : List UInt64 :=
  (retryRuns n.reuse (innerLevels levels)).map fun r => r.level.delay

/-- What follows the source topic in the names of a chain, main first. -/
def suffixes (n : Naming) (levels : List Level) : List String :=
  "" :: n.retrySuffixes (n.retryDelays levels) ++ levels.getLast?.toList.map (terminalSuffix n)

end Naming

/-! ## §3. Repeated names. -/

/-- **Names that share a stem repeat as their suffixes do.** -/
theorem firstRepeated?_map (stem : String) (l : List String) :
    firstRepeated? (l.map (stem ++ ·)) = (firstRepeated? l).map (stem ++ ·) := by
  have hgo : ∀ seen, firstRepeated?.go (seen.map (stem ++ ·)) (l.map (stem ++ ·))
      = (firstRepeated?.go seen l).map (stem ++ ·) := by
    induction l with
    | nil => exact fun seen => rfl
    | cons s rest ih =>
        intro seen
        have hseen : (seen.map (stem ++ ·)).contains (stem ++ s) = seen.contains s := by
          rw [Bool.eq_iff_iff, List.contains_iff_mem, List.contains_iff_mem]
          exact List.mem_map_of_injective fun _ _ h => (String.append_right_inj _).1 h
        rw [List.map_cons, firstRepeated?.go, firstRepeated?.go, hseen]
        split
        · rfl
        · exact ih (s :: seen)
  exact hgo []

/-- The check for repeated names stays silent only where nothing repeats. -/
theorem firstRepeated?_eq_none_iff {l : List String} : firstRepeated? l = none ↔ l.Nodup := by
  refine ⟨nodup_of_firstRepeated?, fun hnodup => ?_⟩
  have hgo : ∀ seen : List String, (∀ s ∈ l, s ∉ seen) → firstRepeated?.go seen l = none := by
    induction l with
    | nil => exact fun seen _ => rfl
    | cons s rest ih =>
        intro seen hfresh
        obtain ⟨hs, hrest⟩ := List.nodup_cons.1 hnodup
        have hnew : ¬seen.contains s = true :=
          fun hmem => hfresh s List.mem_cons_self (List.contains_iff_mem.1 hmem)
        rw [firstRepeated?.go, if_neg hnew]
        refine ih hrest (s :: seen) fun t ht hmem => ?_
        rcases List.mem_cons.1 hmem with rfl | hmem
        · exact hs ht
        · exact hfresh t (List.mem_cons_of_mem s ht) hmem
  exact hgo [] fun _ _ => List.not_mem_nil

/-- The name that is found is one of the names. -/
theorem mem_of_firstRepeated? {l : List String} {s : String} (h : firstRepeated? l = some s) :
    s ∈ l := by
  have hgo : ∀ seen, firstRepeated?.go seen l = some s → s ∈ l := by
    clear h
    induction l with
    | nil => exact fun seen hnone => by cases hnone
    | cons first rest ih =>
        intro seen hgo
        rw [firstRepeated?.go] at hgo
        split at hgo
        · cases hgo
          exact List.mem_cons_self
        · exact List.mem_cons_of_mem first (ih _ hgo)
  exact hgo [] h

/-- A list that repeats nothing in its middle repeats an end, if anything. -/
theorem not_nodup_ends {first last : String} {middle : List String} (h : middle.Nodup) :
    ¬(first :: middle ++ [last]).Nodup ↔ first ∈ middle ∨ last ∈ middle ∨ last = first := by
  rw [List.cons_append, List.nodup_cons, List.nodup_append, List.mem_append]
  grind

/-! ## §4. The names of a chain. -/

/-- The check does not look at the source topic, if there is one. -/
theorem checkLevels_of_source {source other : String} {levels : List Level}
    (h : checkLevels source levels = .ok ()) (hother : other ≠ "") :
    checkLevels other levels = .ok () := by
  have hempty : ¬source.isEmpty = true := by
    intro hempty
    rw [checkLevels, if_pos hempty] at h
    cases h
  have hother : ¬other.isEmpty = true := fun h => hother (String.isEmpty_iff.1 h)
  unfold checkLevels at h ⊢
  rw [if_neg hempty] at h
  rw [if_neg hother]
  exact h

theorem RetryRun.toDestination_name (run : RetryRun) (source name : String) :
    (run.toDestination source name).name = name := by
  unfold toDestination
  split <;> rfl

theorem map_name_retryNodes {source : String} {runs : List RetryRun} {suffixes : List String}
    (hlength : suffixes.length = runs.length) :
    (retryNodes source runs suffixes).map Destination.name = suffixes.map (source ++ ·) := by
  have hzip : (runs.zip suffixes).map Prod.snd = suffixes :=
    List.map_snd_zip (Nat.le_of_eq hlength)
  calc (retryNodes source runs suffixes).map Destination.name
      = (runs.zip suffixes).map fun p => source ++ p.2 := by
        unfold retryNodes
        rw [List.map_map]
        refine List.map_congr_left fun p _ => ?_
        exact p.1.toDestination_name source (source ++ p.2)
    _ = ((runs.zip suffixes).map Prod.snd).map (source ++ ·) := by rw [List.map_map]; rfl
    _ = suffixes.map (source ++ ·) := by rw [hzip]

section Building

variable {source : String} {main terminal : Level} {inner : List Level} (n : Naming)

/-- **The nodes of some levels are named by their suffixes**, and the retry nodes by the retry
suffixes. -/
theorem map_name_nodes :
    (nodes source main (retryRuns n.reuse inner) terminal n).map Destination.name
      = (n.suffixes (main :: inner ++ [terminal])).map (source ++ ·) := by
  have hlength := n.length_retrySuffixes ((retryRuns n.reuse inner).map fun r => r.level.delay)
  rw [List.length_map] at hlength
  have hnodes : nodes source main (retryRuns n.reuse inner) terminal n
      = .ofLevel source source main :: retryNodes source (retryRuns n.reuse inner)
          (n.retrySuffixes ((retryRuns n.reuse inner).map fun r => r.level.delay))
        ++ [.ofLevel source (source ++ terminalSuffix n terminal) terminal] := rfl
  rw [hnodes, Naming.suffixes, Naming.retryDelays, innerLevels_eq, List.getLast?_concat,
    List.map_append, List.map_cons, map_name_retryNodes hlength, List.map_append, List.map_cons,
    List.map_cons, String.append_empty]
  rfl

/-- **What building comes to** for levels that pass the check and are not crowded. -/
theorem buildNodes_eq (hcheck : checkLevels source (main :: inner ++ [terminal]) = .ok ())
    (hfits : ¬Crowded n.reuse inner) :
    buildNodes source (main :: inner ++ [terminal]) n
      = match firstRepeated? (n.suffixes (main :: inner ++ [terminal])) with
        | some s => .error (.reported (.nameUsedTwice (source ++ s) source))
        | none => .ok (nodes source main (retryRuns n.reuse inner) terminal n) := by
  rw [buildNodes_of_check n hcheck, if_neg fun h => hfits (any_overflows_iff.1 h), map_name_nodes,
    firstRepeated?_map]
  cases firstRepeated? (n.suffixes (main :: inner ++ [terminal])) <;> rfl

/-- **What is built**, and when. -/
theorem buildNodes_eq_ok_iff {built : List Destination} :
    buildNodes source (main :: inner ++ [terminal]) n = .ok built ↔
      checkLevels source (main :: inner ++ [terminal]) = .ok () ∧ ¬Crowded n.reuse inner
        ∧ ((nodes source main (retryRuns n.reuse inner) terminal n).map Destination.name).Nodup
        ∧ built = nodes source main (retryRuns n.reuse inner) terminal n := by
  constructor
  · intro h
    have hcheck := checkLevels_of_buildNodes h
    rw [buildNodes_of_check n hcheck, ite_error_eq_ok_iff] at h
    obtain ⟨hfits, h⟩ := h
    split at h
    · cases h
    · rename_i hnames
      cases h
      exact ⟨hcheck, fun hcrowded => hfits (any_overflows_iff.2 hcrowded),
        firstRepeated?_eq_none_iff.1 hnames, rfl⟩
  · rintro ⟨hcheck, hfits, hnodup, rfl⟩
    rw [buildNodes_of_check n hcheck, if_neg fun h => hfits (any_overflows_iff.1 h),
      firstRepeated?_eq_none_iff.2 hnodup]

end Building

theorem Shaped.filter_retry {source : String} {main terminal : Destination} {retries : List Destination}
    (h : Shaped source main retries terminal) :
    (main :: retries ++ [terminal]).filter (fun d => d.role == .retry) = retries := by
  have hterminal : terminal.role ≠ .retry := by
    intro hrole
    have hends := h.terminal_role
    rw [hrole] at hends
    cases hends
  rw [List.cons_append, List.filter_cons_of_neg (by rw [h.main_role]; decide), List.filter_append,
    List.filter_eq_self.2 fun d hd => beq_iff_eq.2 (h.retry_roles d hd),
    List.filter_cons_of_neg (by rwa [beq_iff_eq]), List.filter_nil, List.append_nil]

/-- **A chain that is built has the names of its suffixes**, node by node, and its retry nodes those
of the retry suffixes. -/
theorem map_name_of_buildNodes {source : String} {levels : List Level} {n : Naming}
    {built : List Destination} (h : buildNodes source levels n = .ok built) :
    built.map Destination.name = (n.suffixes levels).map (source ++ ·)
      ∧ (built.filter fun d => d.role == .retry).map Destination.name
        = (n.retrySuffixes (n.retryDelays levels)).map (source ++ ·) := by
  obtain ⟨main, retries, terminal, hregular, _⟩ := regular_of_buildNodes h {}
  have hcheck := checkLevels_of_buildNodes h
  obtain ⟨first, inner, last, rfl, _⟩ := of_checkLevels hcheck
  have hnames : built.map Destination.name
      = (n.suffixes (first :: inner ++ [last])).map (source ++ ·) := by
    obtain ⟨_, _, _, rfl⟩ := (buildNodes_eq_ok_iff n).1 h
    exact map_name_nodes n
  refine ⟨hnames, ?_⟩
  have hshape : built = main :: retries ++ [terminal] := hregular.nodes
  rw [hshape] at hnames ⊢
  rw [hregular.toShaped.filter_retry]
  rw [Naming.suffixes, List.getLast?_concat, List.map_append, List.map_append, List.map_cons,
    List.map_cons] at hnames
  exact (List.cons.inj (List.append_inj_left' hnames rfl)).2

/-- **Names are the source topic and a suffix**, and the suffixes are those of the levels and the
naming, the same for every source topic.  Those of the retry nodes never clash with each other.  A
chain is built for every source topic or for none.  It is for none in two cases: 32 bits do not hold
the attempts of levels that share a node, which breaks the build down; or two of the suffixes are the
same, which is reported, and then the retry or the terminal suffix is empty or the terminal suffix is
one of the retry suffixes. -/
theorem names_are_source_and_suffix (n : Naming) {source : String} {levels : List Level}
    (hcheck : checkLevels source levels = .ok ()) :
    ∃ retries last, n.suffixes levels = "" :: retries ++ [last] ∧ retries.Nodup
      ∧ (∀ topic built, buildNodes topic levels n = .ok built →
          built.map Destination.name = (n.suffixes levels).map (topic ++ ·)
            ∧ (built.filter fun d => d.role == .retry).map Destination.name
              = retries.map (topic ++ ·))
      ∧ (Crowded n.reuse (innerLevels levels) → ∀ topic, topic ≠ "" →
          buildNodes topic levels n = .error .overflow)
      ∧ (¬Crowded n.reuse (innerLevels levels) → (n.suffixes levels).Nodup →
          ∀ topic, topic ≠ "" → ∃ built, buildNodes topic levels n = .ok built)
      ∧ (¬Crowded n.reuse (innerLevels levels) → ¬(n.suffixes levels).Nodup →
          ∃ s ∈ n.suffixes levels, ∀ topic, topic ≠ "" →
            buildNodes topic levels n = .error (.reported (.nameUsedTwice (topic ++ s) topic)))
      ∧ (¬(n.suffixes levels).Nodup ↔ "" ∈ retries ∨ last ∈ retries ∨ last = "") := by
  obtain ⟨main, inner, terminal, rfl, _⟩ := of_checkLevels hcheck
  have hsuffixes : n.suffixes (main :: inner ++ [terminal])
      = "" :: n.retrySuffixes (n.retryDelays (main :: inner ++ [terminal]))
        ++ [terminalSuffix n terminal] := by
    rw [Naming.suffixes, List.getLast?_concat]
    rfl
  have hretries := n.nodup_retrySuffixes (n.retryDelays (main :: inner ++ [terminal]))
  refine ⟨_, _, hsuffixes, hretries, fun topic built hbuilt => map_name_of_buildNodes hbuilt,
    fun hcrowded topic htopic => ?_, fun hfits hnodup topic htopic => ?_, fun hfits hclash => ?_, ?_⟩
  · exact buildNodes_eq_overflow_iff.2 ⟨checkLevels_of_source hcheck htopic, hcrowded⟩
  · rw [innerLevels_eq] at hfits
    rw [buildNodes_eq n (checkLevels_of_source hcheck htopic) hfits,
      firstRepeated?_eq_none_iff.2 hnodup]
    exact ⟨_, rfl⟩
  · rw [innerLevels_eq] at hfits
    cases hrepeated : firstRepeated? (n.suffixes (main :: inner ++ [terminal])) with
    | none => exact absurd (firstRepeated?_eq_none_iff.1 hrepeated) hclash
    | some s =>
        refine ⟨s, mem_of_firstRepeated? hrepeated, fun topic htopic => ?_⟩
        rw [buildNodes_eq n (checkLevels_of_source hcheck htopic) hfits, hrepeated]
  · rw [hsuffixes, not_nodup_ends hretries]

/-- Checked for one source topic, the levels give the names of every other; crowded levels give none
to any. -/
theorem names_are_source_and_suffix_of_delays :
    (∃ built, buildNodes "invoices" (Level.forChain [10, 10, 20] 1 true true)
        { suffixing := .delay } = .ok built
      ∧ built.map Destination.name = ["invoices", "invoices-retry-10-0", "invoices-retry-10-1",
        "invoices-retry-20", "invoices-dlt"])
    ∧ (Naming.suffixes { reuse := .single } Orders.crowdedLevels).Nodup
    ∧ buildNodes "invoices" Orders.crowdedLevels { reuse := .single } = .error .overflow := by
  refine ⟨?_, by decide +kernel, ?_⟩
  · have hcheck : checkLevels "orders" (Level.forChain [10, 10, 20] 1 true true) = .ok () := by
      decide +kernel
    obtain ⟨_, _, _, _, hnames, _, hbuilds, _⟩ :=
      names_are_source_and_suffix { suffixing := .delay } hcheck
    obtain ⟨built, hbuilt⟩ := hbuilds (fun h => nomatch h.1) (by decide +kernel) "invoices"
      (by decide)
    refine ⟨built, hbuilt, ?_⟩
    rw [(hnames "invoices" built hbuilt).1]
    decide +kernel
  · have hcheck : checkLevels "orders" Orders.crowdedLevels = .ok () := by decide +kernel
    obtain ⟨_, _, _, _, _, hoverflow, _⟩ := names_are_source_and_suffix { reuse := .single } hcheck
    refine hoverflow ⟨rfl, innerLevels Orders.crowdedLevels, ?_, ?_⟩ "invoices" (by decide)
    · decide +kernel
    · decide +kernel

end Redelivery
